import TabAudit.Regex.Basic
/-!
# The written form of a pattern

A pattern is kept and shown as text. `Regex.read` gives a text its pieces: a dot, the class of
everything but the separator, a backslash before a character that is no letter or digit, or a
character that means nothing special, each followed by `*`, `?` or nothing. A text outside this
dialect has no reading.
-/

namespace TabAudit.Regex

/-- The characters that stand for themselves only behind a backslash. -/
def meaningful : List Char :=
  ['\\', '.', '^', '$', '*', '+', '?', '[', '\x7b', '|', '(', ')']

/-- The class that a text starts with, and what follows it. -/
def readClass : List Char → Option (CharClass × List Char)
  | '.' :: rest => some (.any, rest)
  | '[' :: '^' :: '/' :: ']' :: rest => some (.notSlash, rest)
  | '\\' :: c :: rest => if c.isAlphanum then none else some (.exactly c, rest)
  | c :: rest => if meaningful.contains c then none else some (.exactly c, rest)
  | [] => none

/-- The count behind a class, and what follows it. -/
def readCount : List Char → Count × List Char
  | '*' :: rest => (.many, rest)
  | '?' :: rest => (.optional, rest)
  | rest => (.one, rest)

theorem readClass_length {s rest : List Char} {k : CharClass}
    (h : readClass s = some (k, rest)) : rest.length < s.length := by
  unfold readClass at h
  split at h
  · simp_all
  · obtain ⟨-, rfl⟩ := by simpa using h
    simp only [List.length_cons]; omega
  · split at h
    · simp at h
    · obtain ⟨-, rfl⟩ := by simpa using h
      simp only [List.length_cons]; omega
  · split at h
    · simp at h
    · simp_all
  · simp at h

theorem readCount_length (s : List Char) : (readCount s).2.length ≤ s.length := by
  unfold readCount
  split <;> simp

/-- The pieces that a text stands for. -/
def read (s : List Char) : Option Regex :=
  match s with
  | [] => some []
  | c :: cs =>
    match _h : readClass (c :: cs) with
    | none => none
    | some (k, rest) => (read (readCount rest).2).map (⟨k, (readCount rest).1⟩ :: ·)
termination_by s.length
decreasing_by
  have h₁ := readClass_length _h
  have h₂ := readCount_length rest
  omega

end TabAudit.Regex
