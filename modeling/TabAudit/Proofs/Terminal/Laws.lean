import Mathlib.Data.List.Infix
import TabAudit.Proofs.Text.Names
import TabAudit.Proofs.Text.Pieces
import TabAudit.Terminal

/-!
# What is relied on of a terminal

Data that is escaped is shown literally, unless an emoji has a name in it, a backslash stands in
front of a bracket, or a single one stands at its end. A text that fits the page is printed as it is
shown. Nothing else is known of how a terminal shows texts, which emoji it has, and how wide it is.
-/

namespace TabAudit.Terminal

/-! ## Texts -/

/-- Whether a text ends in a backslash with no other in front of it. -/
def EndsAlone (s : List Char) : Prop :=
  ∃ front, s = front ++ ['\\'] ∧ front.getLast? ≠ some '\\'

/-- A text without brackets. -/
def Bracketless (s : List Char) : Prop := ∀ c ∈ s, c ≠ '[' ∧ c ≠ ']'

/-- Data that escaping keeps: it ends in no single backslash, and none of its backslashes stands in
front of a bracket. -/
structure Tame (s : List Char) : Prop where
  ending : ¬ EndsAlone s
  brackets : ¬ ['\\', '['] <:+: s

variable [Terminal]

/-- Whether no emoji has its name between two colons anywhere in a text. -/
def Undrawn (s : List Char) : Prop := ∀ name, ':' :: name ++ [':'] <:+: s → emoji? name = none

/-- Whether a text fits the page: it has no control characters but the ends of its lines, and none
of these has more characters, or takes up more columns, than the page is wide. -/
structure Fits (s : List Char) : Prop where
  chars : ∀ c ∈ s, ' ' ≤ c ∨ c = '\n'
  lines : ∀ line ∈ splitAtEach '\n' s, line.length ≤ width ∧ columns line ≤ width

/-! ## What is printed -/

/-- What is printed is the pieces up to one, and all of them if none fails. -/
theorem write_cases (before : List Char) (pieces : List (List Char)) :
    write before pieces = (before ++ pieces.flatten, none) ∨
      ∃ front piece back fault, pieces = front ++ piece :: back ∧
        outputFault? (before ++ front.flatten) piece = some fault ∧
        write before pieces = (before ++ front.flatten, some fault) := by
  induction pieces generalizing before with
  | nil => exact .inl (by simp [write])
  | cons piece rest ih =>
    rw [write]
    cases failed : outputFault? before piece with
    | some fault => exact .inr ⟨[], piece, rest, fault, rfl, by simpa using failed, by simp⟩
    | none =>
      rcases ih (before ++ piece) with whole | ⟨front, other, back, fault, rfl, failed, broken⟩
      · exact .inl (by simp [whole])
      · refine .inr ⟨piece :: front, other, back, fault, rfl, ?_, ?_⟩
        · simpa using failed
        · simp [broken]

/-! ## Laws -/

/-- What is relied on of a terminal. -/
structure Laws : Prop where
  /-- No emoji has a colon in it. -/
  emoji_colonless : ∀ name drawn, emoji? name = some drawn → ':' ∉ drawn
  /-- Of all numbers two are names of emoji. -/
  emoji_digits : ∀ n, emoji? (natDigits n) = none ↔ n ≠ 100 ∧ n ≠ 1234
  /-- Without brackets there is nothing to escape. -/
  escape_plain : ∀ s, '[' ∉ s → ¬ EndsAlone s → escape s = s
  /-- A single backslash at the end is doubled. -/
  escape_ending : ∀ s, '[' ∉ s → EndsAlone s → escape s = s ++ ['\\']
  /-- Emoji are drawn in a text without tags. -/
  shown_plain : ∀ s, '[' ∉ s → shown s = drawNames emoji? s
  /-- What is escaped is shown literally if no emoji has a name in it or behind it. -/
  shown_escape : ∀ blanks s tail, (∀ c ∈ blanks, c = ' ') → Tame s → Bracketless tail →
    '\\' ∉ tail → Undrawn (s ++ tail) →
      shown (blanks ++ escape s ++ tail) = blanks ++ s ++ tail
  /-- Emoji are drawn behind what is escaped. -/
  shown_escape_colonless : ∀ s tail, Tame s → ':' ∉ s → Bracketless tail → '\\' ∉ tail →
    shown (escape s ++ tail) = s ++ drawNames emoji? tail
  /-- Tags around a label are not shown. -/
  shown_styled : ∀ style label blanks s, style ≠ [] → (∀ c ∈ style, 'a' ≤ c ∧ c ≤ 'z') →
    Bracketless label → '\\' ∉ label → Undrawn label → (∀ c ∈ blanks, c = ' ') →
      shown ('[' :: style ++ ']' :: label ++ '[' :: '/' :: style ++ ']' :: blanks ++ escape s) =
        label ++ shown (blanks ++ escape s)
  /-- What fits the page is printed as it is. -/
  page_of_fits : ∀ s, Fits s → page s = s ++ ['\n']

variable {blanks s tail : List Char}

/-- Whether markup is printed as a text, with the end of its line. -/
def Prints (markup text : List Char) : Prop := printed markup = text ++ ['\n']

namespace Laws

variable (laws : Laws)

include laws

theorem prints_iff {markup text : List Char} (fits : Fits (shown markup)) :
    Prints markup text ↔ shown markup = text := by
  rw [Prints, printed, laws.page_of_fits _ fits, List.append_cancel_right_eq]

theorem prints_of_shown {markup text : List Char} (same : shown markup = text)
    (fits : Fits text) : Prints markup text := by
  subst same
  exact (laws.prints_iff fits).mpr rfl

/-- Data without opening brackets is shown as it is just if it does not end in a single backslash
and none of the names in it and behind it is drawn. -/
theorem shown_escape_iff (blank : ∀ c ∈ blanks, c = ' ') (bracket : '[' ∉ s)
    (free : Bracketless tail) :
    shown (blanks ++ escape s ++ tail) = blanks ++ s ++ tail ↔
      ¬ EndsAlone s ∧ ∀ name ∈ colonNames (s ++ tail), emoji? name = none := by
  have colon : ':' ∉ blanks := fun member => absurd (blank _ member) (by decide)
  have opening : '[' ∉ blanks := fun member => absurd (blank _ member) (by decide)
  have behind : '[' ∉ tail := fun member => (free _ member).1 rfl
  by_cases ends : EndsAlone s
  · refine iff_of_false (fun same => ?_) fun both => both.1 ends
    have markup : '[' ∉ blanks ++ (s ++ ['\\']) ++ tail := by simp [opening, bracket, behind]
    rw [laws.escape_ending s bracket ends, laws.shown_plain _ markup] at same
    -- A backslash more is shown, unless something is drawn, which takes colons away.
    rcases drawNames_cases laws.emoji_colonless (blanks ++ (s ++ ['\\']) ++ tail) with
      ⟨-, kept⟩ | ⟨-, fewer⟩
    · rw [kept] at same
      have length := congrArg List.length same
      simp at length
    · rw [same] at fewer
      simp at fewer
  · have markup : '[' ∉ blanks ++ s ++ tail := by simp [opening, bracket, behind]
    rw [laws.escape_plain s bracket ends, laws.shown_plain _ markup,
      drawNames_eq_self_iff laws.emoji_colonless, List.append_assoc, colonNames_append colon]
    exact (and_iff_right ends).symm

end Laws

end TabAudit.Terminal
