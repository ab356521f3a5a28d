import SpecLexicon.Proofs.Template.Nesting

/-!
# Templates without configured names

While no name is configured, every marker of a body becomes a label with the word for its kind. The
signature starts with the same passes, and no marker is left behind them, so it is the same whether
it is made of the body or of what is inserted. What is inserted has a label for each word that the
signature shows in the place of a marker.
-/

set_option autoImplicit false

namespace SpecLexicon.Template

open Text Placeholder

theorem choices_nil (kind : Marker) : choices [] [] kind = ':' :: kind.word := by
  cases kind <;> rfl

/-- The signature of a text without markers is made by the passes for labels and choices alone. -/
theorem signature_of_unmarked {text : List Char} (absent : ∀ kind : Marker, ¬kind.text <:+: text) :
    signature text = substitute choice (substitute labeled text) := by
  have passed := insertable_of_unmarked [] [] absent
  calc
    signature text = substitute choice (substitute labeled (insertable [] [] text)) := rfl
    _ = substitute choice (substitute labeled text) := by rw [passed]

theorem signature_insertable (body : List Char) :
    signature (insertable [] [] body) = signature body := by
  have absent (kind : Marker) := not_infix_insertable areNames_nil areNames_nil kind body
  rw [signature_of_unmarked absent]
  rfl

/-- What is inserted for segments side by side: each typed placeholder has become a labeled one. -/
theorem insertable_flatMap_source (segments : List Segment) :
    insertable [] [] (segments.flatMap Segment.source) =
      (segments.map Segment.named).flatMap Segment.source := by
  induction segments with
  | nil => exact insertable_of_unmarked [] [] fun kind => by simp [Marker.text]
  | cons segment segments ih =>
    rw [List.flatMap_cons, segment.insertable_source_append, ih, List.map_cons, List.flatMap_cons]

/-- A typed placeholder shows the label that it becomes. -/
theorem Segment.shown_named (segment : Segment) : segment.named.shown = segment.shown := by
  cases segment <;> rfl

theorem flatMap_shown_named (segments : List Segment) :
    (segments.map Segment.named).flatMap Segment.shown = segments.flatMap Segment.shown := by
  rw [List.flatMap_map]
  exact congrArg (List.flatMap · segments) (funext Segment.shown_named)

/-- What is inserted while no name is configured has the signature of its template. It is the body
with a label for each marker, which the signature shows as that label, and the signature of a symbol
is the one of the text that it inserts. -/
theorem signature_eq_of_inserted :
    (∀ body : List Char, signature (insertable [] [] body) = signature body) ∧
    (∀ body : List Char,
      (∃ parts, IsMarked body parts ∧
        insertable [] [] body = write (fun kind => ':' :: kind.word) parts) ∧
      (∀ kind : Marker, ¬kind.text <:+: insertable [] [] body) ∧
      signature body = substitute choice (substitute labeled (insertable [] [] body))) ∧
    (∀ segments : List Segment,
      insertable [] [] (segments.flatMap Segment.source) =
          (segments.map Segment.named).flatMap Segment.source ∧
        signature (segments.flatMap Segment.source) =
          (segments.map Segment.named).flatMap Segment.shown) ∧
    ∀ template : Template, ∃ inserted, (template.item [] []).snippet = some inserted ∧
      (template.item [] []).signature = String.ofList (signature inserted.toList) := by
  refine ⟨signature_insertable, fun body => ⟨?_, ?_, rfl⟩, fun segments => ⟨?_, ?_⟩,
    fun template => ⟨_, rfl, ?_⟩⟩
  · obtain ⟨parts, parted⟩ := exists_parted body
    refine ⟨parts, parted.isMarked, ?_⟩
    rw [insertable_eq_write areNames_nil areNames_nil parted, funext choices_nil]
  · exact fun kind => not_infix_insertable areNames_nil areNames_nil kind body
  · exact insertable_flatMap_source segments
  · rw [signature_flatMap_source, flatMap_shown_named]
  · rw [String.toList_ofList, signature_insertable]
    rfl

end SpecLexicon.Template
