import SpecLexicon.Text.Blank

/-!
# Remarks

A configuration line may end with a remark behind a hash. The remark is one line: blanks and line
feeds may come before it, but it has no line feed of its own.
-/

set_option autoImplicit false

namespace SpecLexicon.Text

/-- Read what stands behind the hash. The outer result says whether it is a remark at all, the inner
one is the remark without surrounding blanks, absent when nothing is left. -/
def readRemark? (text : List Char) : Option (Option (List Char)) :=
  let shown := dropBlank text
  if '\n' ∈ shown then none else some (trimmed? shown)

/-- Split a line at its first hash. The second part is absent when there is none. -/
def splitHash (text : List Char) : List Char × Option (List Char) :=
  (text.takeWhile (· != '#'), (text.dropWhile (· != '#')).tail?)

theorem append_splitHash (text : List Char) :
    (splitHash text).1 ++ ((splitHash text).2.map ('#' :: ·)).getD [] = text := by
  induction text with
  | nil => rfl
  | cons c tail ih =>
    by_cases hash : c = '#'
    · subst hash
      simp [splitHash]
    · simpa [splitHash, hash] using ih

end SpecLexicon.Text
