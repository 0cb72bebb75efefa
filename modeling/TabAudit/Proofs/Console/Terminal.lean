import TabAudit.Console.Terminal
import TabAudit.Proofs.Console.Markup
import TabAudit.Proofs.Console.Page

/-!
# A console keeps the laws

A console of any width shows and prints texts as it is relied on.
-/

namespace TabAudit.Console

open Terminal (EndsAlone)

theorem escape_plain {s : List Char} (bracket : '[' ∉ s) (ends : ¬ EndsAlone s) :
    Markup.escape s = s := by
  rw [Markup.escape_of_notMem bracket]
  exact ((Markup.doubleLast_cases s).resolve_left fun other => ends other.1).2

theorem escape_ending {s : List Char} (bracket : '[' ∉ s) (ends : EndsAlone s) :
    Markup.escape s = s ++ ['\\'] := by
  rw [Markup.escape_of_notMem bracket]
  exact ((Markup.doubleLast_cases s).resolve_right fun other => other.1 ends).2

/-- Letters in a row, with a slash in front or without one, are a tag. -/
theorem isTag_letters {style : List Char} (named : style ≠ [])
    (letters : ∀ c ∈ style, 'a' ≤ c ∧ c ≤ 'z') :
    Markup.IsTag style ∧ Markup.IsTag ('/' :: style) := by
  have free : Terminal.Bracketless style := fun c member => by
    constructor <;> rintro rfl <;> exact absurd (letters _ member) (by decide)
  obtain ⟨c, rest, rfl⟩ := List.exists_cons_of_ne_nil named
  refine ⟨⟨free, ?_⟩, List.forall_mem_cons.mpr ⟨by decide, free⟩, by
    simp [Markup.opensTag]⟩
  have letter := letters c List.mem_cons_self
  simp [Markup.opensTag, letter.1, letter.2]

/-- A console keeps the laws of terminals. -/
theorem laws (width : Nat) : @Terminal.Laws (terminal width) := by
  let := terminal width
  constructor
  case emoji_colonless => exact notMem_of_emoji?
  case emoji_digits => exact fun n => emoji?_natDigits_iff
  case escape_plain => exact fun s => escape_plain
  case escape_ending => exact fun s => escape_ending
  case shown_plain => exact fun s => Markup.shown_of_notMem
  case shown_escape =>
    exact fun blanks s tail blank tame free _ names => Markup.shown_escape blank tame free names
  case shown_escape_colonless =>
    exact fun s tail tame colon free _ => Markup.shown_escape_colonless tame colon free
  case shown_styled =>
    intro style label blanks s named letters free backslash names _
    obtain ⟨opening, closing⟩ := isTag_letters named letters
    have styled := Markup.shown_styled opening closing free backslash names
      (blanks ++ Markup.escape s)
    change Markup.shown ('[' :: style ++ ']' :: label ++ '[' :: '/' :: style ++ ']' :: blanks ++
      Markup.escape s) = label ++ Markup.shown (blanks ++ Markup.escape s)
    simpa using styled
  case page_of_fits => exact fun s fits => page_eq fits.chars fits.lines

/-- A line of at most half as many characters as a console has columns fits it, whatever columns
they take up. -/
theorem fits_of_short {width : Nat} {s : List Char} (chars : ∀ c ∈ s, ' ' ≤ c)
    (short : 2 * s.length ≤ width) : @Terminal.Fits (terminal width) s := by
  let := terminal width
  have one : '\n' ∉ s := fun member => absurd (chars _ member) (by decide)
  refine ⟨fun c member => .inl (chars c member), ?_⟩
  rw [splitAtEach_of_notMem one, List.forall_mem_singleton]
  exact ⟨by change s.length ≤ width; omega, (Gauge.start.cells_le s).trans short⟩

end TabAudit.Console
