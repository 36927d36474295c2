/-!
# Splitting texts

`splitAt sep` cuts a text at every occurrence of one character. Joining the pieces again gives the
text (`joinWith_splitAt`).
-/

namespace Switchboard.Text

/-- The pieces of a text between the occurrences of `sep`; a text without any is its only piece. -/
def splitAt (sep : Char) : List Char → List (List Char)
  | [] => [[]]
  | c :: cs =>
    match splitAt sep cs with
    | [] => [[]]
    | piece :: pieces => if c = sep then [] :: piece :: pieces else (c :: piece) :: pieces

/-- The pieces with `sep` between them. -/
def joinWith (sep : Char) : List (List Char) → List Char
  | [] => []
  | [piece] => piece
  | piece :: pieces => piece ++ sep :: joinWith sep pieces

theorem splitAt_ne_nil (sep : Char) (cs : List Char) : splitAt sep cs ≠ [] := by
  cases cs with
  | nil => simp [splitAt]
  | cons c cs =>
    unfold splitAt
    split
    · simp
    · split <;> simp

/-- Nothing is lost by splitting. -/
theorem joinWith_splitAt (sep : Char) (cs : List Char) : joinWith sep (splitAt sep cs) = cs := by
  induction cs with
  | nil => rfl
  | cons c cs ih =>
    unfold splitAt
    split
    · rename_i h
      exact absurd h (splitAt_ne_nil sep cs)
    · rename_i piece pieces h
      rw [h] at ih
      split
      · rename_i hc
        simp only [joinWith, List.nil_append, hc, List.cons.injEq, true_and]
        exact ih
      · cases pieces with
        | nil => simpa [joinWith] using ih
        | cons _ _ => simpa [joinWith] using ih

/-- The text before the first occurrence of `sep` and the text behind it. -/
def cutFirst? (sep : Char) : List Char → Option (List Char × List Char)
  | [] => none
  | c :: cs =>
    if c = sep then some ([], cs)
    else (cutFirst? sep cs).map fun (before, behind) => (c :: before, behind)

/-- The text before the last occurrence of `sep` and the text behind it. -/
def cutLast? (sep : Char) (cs : List Char) : Option (List Char × List Char) :=
  (cutFirst? sep cs.reverse).map fun (behind, before) => (before.reverse, behind.reverse)

/-- The text before the first occurrence of a pair of `sep` and the text behind the pair. -/
def cutPair? (sep : Char) : List Char → Option (List Char × List Char)
  | [] => none
  | [_] => none
  | c :: d :: cs =>
    if c = sep ∧ d = sep then some ([], cs)
    else (cutPair? sep (d :: cs)).map fun (before, behind) => (c :: before, behind)

end Switchboard.Text
