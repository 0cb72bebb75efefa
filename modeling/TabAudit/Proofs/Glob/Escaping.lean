import TabAudit.Proofs.Glob.Components
import TabAudit.Proofs.Glob.Spanning

/-!
# Globs for one path

With a backslash before every character that would mean something, a glob stands for one path only,
the text without these backslashes. Backslashes before other characters make no difference. Of the
separators only those have to be protected that would be dropped: one in front, and one behind
another.
-/

namespace TabAudit

namespace Glob

/-- A character as a glob has it, with its backslash if it is protected. -/
def Mark.written (m : Mark) : List Char := if m.shielded then ['\\', m.char] else [m.char]

/-- A glob whose characters are protected as the marks say. -/
def written (ms : List Mark) : List Char := ms.flatMap Mark.written

/-- Every character that would mean something is protected. -/
structure Guarded (ms : List Mark) : Prop where
  special : ∀ m ∈ ms, m.char ∈ ['*', '?', '\\'] → m.shielded = true
  first : ∀ m ∈ ms.head?, m.char = '/' → m.shielded = true
  again : ms.IsChain fun m n => m.char = '/' → n.char = '/' → n.shielded = true

/-- What a character is in a glob in which all that means something is protected. -/
def Mark.token (m : Mark) : Token :=
  if m.shielded then .escaped m.char else if m.char = '/' then .separator else .ordinary m.char

variable {m : Mark} {ms : List Mark}

theorem head?_written (h : ∀ n ∈ ms.head?, n.char = '/' → n.shielded = true) :
    (written ms).head? ≠ some '/' := by
  cases ms with
  | nil => simp [written]
  | cons n ms =>
    have guarded := h n rfl
    cases shielded : n.shielded <;> simp_all [written, Mark.written]

/-- Each character is one token. -/
theorem cut_written (special : ∀ m ∈ ms, m.char ∈ ['*', '?', '\\'] → m.shielded = true)
    (again : ms.IsChain fun m n => m.char = '/' → n.char = '/' → n.shielded = true) :
    Cut (written ms) (ms.map Mark.token) := by
  induction ms with
  | nil => exact .done
  | cons m ms ih =>
    have rest : Cut (written ms) (ms.map Mark.token) :=
      ih (fun n hn => special n (List.mem_cons_of_mem m hn)) again.tail
    have first := special m (by simp)
    cases shielded : m.shielded with
    | true => simpa [written, Mark.written, Mark.token, shielded] using rest.escaped m.char
    | false =>
      by_cases slash : m.char = '/'
      · -- A `/` behind this one would be protected, so it is a run of one.
        have last : (written ms).head? ≠ some '/' := by
          apply head?_written
          intro n hn
          cases ms with
          | nil => cases hn
          | cons x ms =>
            obtain rfl : x = n := by simpa using hn
            exact (List.isChain_cons_cons.mp again).1 slash
        simpa [written, Mark.written, Mark.token, shielded, slash] using rest.separator 0 last
      · have plain : m.char ∉ Glob.special := by
          rw [shielded] at first
          simp_all [Glob.special]
        simpa [written, Mark.written, Mark.token, shielded, slash] using
          rest.ordinary m.char plain

/-- A character is neither a `**` nor a backslash at the end. -/
theorem notMem_tokens {t : Token} (h : t = .anyPath ∨ t = .loneEscape) (ms : List Mark) :
    t ∉ ms.map Mark.token := by
  intro member
  obtain ⟨m, -, same⟩ := List.mem_map.mp member
  unfold Mark.token at same
  split at same
  · simp [← same] at h
  · split at same <;> simp [← same] at h

theorem language_token (m : Mark) : m.token.language false .other = {[m.char]} := by
  unfold Mark.token
  split
  · rfl
  · split
    · rename_i slash
      rw [slash]
      rfl
    · rfl

/-- Characters that stand for themselves stand for their text in a row. -/
theorem mem_prod_single {cs s : List Char} :
    s ∈ (cs.map fun c => ({[c]} : Language Char)).prod ↔ s = cs := by
  induction cs generalizing s with
  | nil => exact Language.mem_one s
  | cons c cs ih =>
    rw [List.map_cons, List.prod_cons, Language.mem_mul]
    constructor
    · rintro ⟨a, ha, b, hb, rfl⟩
      rw [mem_single.mp ha, ih.mp hb]
      rfl
    · rintro rfl
      exact ⟨[c], mem_single.mpr rfl, cs, ih.mpr rfl, rfl⟩

theorem getLast?_written (ms : List Mark) :
    (written ms).getLast? = (ms.map Mark.char).getLast? := by
  rcases List.eq_nil_or_concat ms with rfl | ⟨front, m, rfl⟩
  · rfl
  · cases shielded : m.shielded <;> simp [written, Mark.written, shielded]

/-- A glob in which all that means something is protected stands for its own text. -/
theorem mem_language_written {s : List Char} (guarded : Guarded ms)
    (ends : (ms.map Mark.char).getLast? ≠ some '/') :
    s ∈ language (written ms) ↔ s = ms.map Mark.char := by
  have cut := cut_written guarded.special guarded.again
  have last : (written ms).getLast? ≠ some '/' := by rwa [getLast?_written]
  have own : Token.language false .other ∘ Mark.token = fun m => {[m.char]} :=
    funext language_token
  rw [language_eq, ← cut.eq_tokens, cut.dropLeading (head?_written guarded.first),
    trimmed_languages cut last, languages_eq_map (notMem_tokens (.inl rfl) ms), List.map_map, own,
    ← mem_prod_single, List.map_map]
  rfl

end Glob

namespace Pattern

open Glob

/-- A glob that is a path with a backslash before all that means something, and before any other
characters, can be used and takes that path and no other. -/
theorem compile_written {path glob : String} {ms : List Mark}
    (chars : ms.map Mark.char = path.toList) (text : written ms = glob.toList)
    (guarded : Guarded ms) (ends : path.toList.getLast? ≠ some '/') :
    ∃ p, compile glob = .ok p ∧ ∀ other : String, p.accepts other = true ↔ other = path := by
  have tokens_eq : ms.map Mark.token = tokens glob.toList := by
    rw [← text]
    exact (cut_written guarded.special guarded.again).eq_tokens
  have sound : firstFault true (tokens glob.toList) = none := by
    rw [← tokens_eq, firstFault_eq_none_iff (notMem_tokens (.inl rfl) ms)]
    exact notMem_tokens (.inr rfl) ms
  obtain ⟨p, made⟩ := exists_compile_eq_ok_iff.mpr sound
  refine ⟨p, made, fun other => ?_⟩
  rw [accepts_compiled made, ← text, mem_language_written guarded (by rwa [chars]), chars,
    String.toList_inj]

/-- A backslash before some characters that would mean something and some that would not. -/
theorem compile_written_path :
    ∃ p, compile "\\/a/\\/\\d.\\*\\\n" = .ok p ∧ ∀ other : String,
      p.accepts other = true ↔ other = "/a//d.*\n" := by
  have guarded : Guarded [⟨'/', true⟩, ⟨'a', false⟩, ⟨'/', false⟩, ⟨'/', true⟩, ⟨'d', true⟩,
      ⟨'.', false⟩, ⟨'*', true⟩, ⟨'\n', true⟩] :=
    ⟨by decide, by decide, by decide⟩
  exact compile_written rfl rfl guarded (by decide)

end Pattern

end TabAudit
