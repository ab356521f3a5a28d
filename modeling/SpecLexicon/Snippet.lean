import SpecLexicon.Mnemonic
import SpecLexicon.Schema.Item
import SpecLexicon.Template
import SpecLexicon.Template.Rendering

/-!
# Snippets

The symbols of templates under the configured motors and counters. The body of a template starts
with a word, which no pass of substitution touches, so its signature is visible and a parsed
template always has a symbol. A list of template lines becomes a map of symbols by key: of templates
with the same key the last one counts, and a line of any other form is passed over with a record.
-/

set_option autoImplicit false

namespace SpecLexicon

namespace Template

theorem isVisible_signature (template : Template) :
    IsVisible (String.ofList (signature template.body)) := by
  obtain ⟨first, rest, same, start⟩ := template.exists_body_eq_cons
  have plain : Placeholder.isOpening first = false := by
    simp only [Placeholder.isOpening, Bool.or_eq_false_iff, beq_eq_false_iff_ne]
    constructor
    · rintro rfl
      exact absurd start (by decide)
    · rintro rfl
      exact absurd start (by decide)
  obtain ⟨shown, collapsed⟩ := signature_cons rest plain
  intro blank
  have := blank first (by simp [same, collapsed])
  rw [Mnemonic.isBlank_of_isWordStart start] at this
  exact Bool.false_ne_true this

def item (motors counters : List String) (template : Template) : Item :=
  Item.ofSignature (String.ofList (signature template.body)) template.comment
    (some (String.ofList (insertable motors counters template.body))) template.isVisible_signature

/-- The symbol of any body, which may turn out to have no visible signature. -/
def itemOfBody (motors counters : List String) (body : List Char) (comment : Option String) :
    Schema.Checked Item :=
  (((Schema.visible (.string (String.ofList (signature body)))).within (.key "signature"))).map
    fun ⟨shown, visible⟩ => Item.ofSignature shown comment
      (some (String.ofList (insertable motors counters body))) visible

def rejection (text : LooseText) : Record :=
  ⟨.warning, .snippets, (Rejection.mk text "snippet").message⟩

def addLine (motors counters : List String) (built : Rebuilt) (text : LooseText) : Rebuilt :=
  match parse? text.plain with
  | some template =>
    { built with
      items := built.items.insert (String.ofList template.key) (template.item motors counters) }
  | none => { built with journal := built.journal ++ [rejection text] }

def rebuild (motors counters : List String) (target : ItemMap) (texts : List LooseText) : Rebuilt :=
  texts.foldl (addLine motors counters) ⟨target.clear, []⟩

def signatureOf? (text : String) : Option (List Char) :=
  (parse? text).map fun template => signature template.body

/-- A line is fit for a symbol unless half of a surrogate pair is left in its signature, that is,
unless the signature depends on what stands in the place of the halves. -/
def isFit (text : LooseText) : Bool :=
  signatureOf? (text.inPlane 15) == signatureOf? (text.inPlane 16)

@[simp] theorem isFit_text (text : String) : isFit (.text text) = true := by
  simp [isFit, LooseText.inPlane]

end Template

end SpecLexicon
