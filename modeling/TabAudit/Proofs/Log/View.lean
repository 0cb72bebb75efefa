import TabAudit.Config.Settings
import TabAudit.Log.View

/-!
# Logs that can be set up

A log is set up for a level that has a name and a format that is one, or is nothing. Whether it can
show a record is a matter of the format alone.
-/

namespace TabAudit

namespace LogFormat

/-- What starts with neither a star nor a digit gives no number. -/
theorem takeNumber_letter (rule : NumberRule) (next : NextValue) {c : Char} (star : c ≠ '*')
    (digit : c.isDigit = false) (rest : List CodePoint) :
    takeNumber rule next (.char c :: rest) = .ok (0, next, .char c :: rest) := by
  have letter : isDigit (.char c) = false := digit
  have zero : ofDecimalDigits [] = 0 := rfl
  simp [takeNumber, star, letter, zero]

theorem afterConversion_text (size : Nat) (kind : FieldKind) :
    afterConversion size (some kind) [.char 's'] = .ok (none, []) := by
  have plain : [CodePoint.char 's'].dropWhile (isOneOf "#0+ -") = [.char 's'] := by cbv
  have measure : takeMeasure (some kind) [.char 's'] =
      .ok (⟨0, 0⟩, some kind, [.char 's']) := by
    rw [takeMeasure, plain, takeNumber_letter _ _ (by decide) (by decide)]
    rfl
  have kept : dropSize [.char 's'] = [.char 's'] := by cbv
  have shown : isOneOf "sra" (.char 's') = true := by cbv
  simp [afterConversion, measure, kept, convert?, shown]

/-- Nothing is wrong with the message alone. -/
theorem fault?_message : fault? "%(message)s" = none := by
  have untimed : showsTime (Text.ofString "%(message)s").chars = false := by decide
  let name : List CodePoint := "message".toList.map .char
  have points : (Text.ofString "%(message)s").points =
      .char '%' :: .char '(' :: (name ++ [.char ')', .char 's']) := rfl
  have read : readName 0 (name ++ [.char ')', .char 's']) = some (name, [.char 's']) := rfl
  have known : ((Text.mk name).string?.bind fun name => fields.lookup name) = some .text := by
    decide
  have size : (Text.ofString "%(message)s").points.length = 11 := by decide
  simp only [fault?, untimed, size, Bool.false_eq_true, if_false]
  rw [points]
  simp only [faultFrom, read, known, afterConversion_text]

end LogFormat

namespace LogView

/-! ## Setting up -/

theorem readLevel_eq_ok_iff {v : Value} {rank : Nat} :
    readLevel v = .ok rank ↔ ∃ name known, v = .str name ∧
      (name.map upperCase).string? = some known ∧ levels.lookup known = some rank := by
  cases v with
  | str name =>
    simp only [readLevel, Value.str.injEq, exists_and_left, exists_eq_left']
    cases (name.map upperCase).string? with
    | none => simp
    | some known => cases ranked : levels.lookup known <;> simp [ranked]
  | _ => simp [readLevel]

/-- A text that is no level is told by its name. -/
theorem readLevel_error {name : Text} {fault : LogFault}
    (h : readLevel (.str name) = .error fault) : ∃ unknown, fault = .levelUnknown unknown := by
  simp only [readLevel] at h
  split at h
  · cases h
  · cases h
    exact ⟨_, rfl⟩

theorem readFormat_of_not_truthy {v : Value} (h : v.isTruthy = false) :
    readFormat v = .ok "%(message)s" := by
  simp only [readFormat, h, Bool.not_false, if_true]

theorem readFormat_str {t : Text} (h : (Value.str t).isTruthy = true) :
    readFormat (.str t) =
      if LogFormat.isFormat t.chars then .ok t else .error (.notAFormat t) := by
  simp only [readFormat, h, Bool.not_true, Bool.false_eq_true, if_false]

theorem readFormat_eq_ok {v : Value} {t : Text} (h : readFormat v = .ok t) :
    v.isTruthy = false ∧ t = "%(message)s" ∨ v = .str t ∧ LogFormat.isFormat t.chars = true := by
  cases truthy : v.isTruthy with
  | false =>
    rw [readFormat_of_not_truthy truthy] at h
    exact .inl ⟨rfl, (Except.ok.inj h).symm⟩
  | true =>
    cases v with
    | str u =>
      rw [readFormat_str truthy] at h
      split at h
      · cases h
        exact .inr ⟨rfl, by assumption⟩
      · cases h
    | _ => simp [readFormat, truthy] at h

theorem make_eq_ok_iff {level format : Value} {view : LogView} :
    make level format = .ok view ↔
      readLevel level = .ok view.threshold ∧ readFormat format = .ok view.format := by
  obtain ⟨threshold, text⟩ := view
  unfold make
  cases readLevel level with
  | error fault => simp
  | ok rank => cases readFormat format <;> simp

theorem make_error {level format : Value} {fault : LogFault}
    (h : make level format = .error fault) :
    readLevel level = .error fault ∨ readFormat format = .error fault := by
  unfold make at h
  split at h
  · cases h
    exact .inl (by assumption)
  · split at h
    · cases h
      exact .inr (by assumption)
    · cases h

/-- What keeps a record from being shown is what is wrong with the format. -/
theorem fault?_of_show? {view : LogView} {log shown : Log} {fault : LogFormat.Fault}
    (h : view.show? log = (shown, some fault)) : LogFormat.fault? view.format = some fault := by
  unfold show? at h
  simp only at h
  split at h
  · rename_i first rest wrong records same
    cases h
    exact same
  · cases h

end LogView

namespace LogSettings

/-- Whether a log can be set up that shows whatever it is given. -/
structure Usable (s : LogSettings) : Prop where
  level : ∃ name known, s.level = .str name ∧ (name.map upperCase).string? = some known ∧
    (LogView.levels.lookup known).isSome
  format : s.format.isTruthy = false ∨ ∃ t, s.format = .str t ∧
    LogFormat.isFormat t.chars = true ∧ LogFormat.fault? t = none

variable {s : LogSettings} {view : LogView}

theorem usable_iff : s.Usable ↔
    ∃ view, LogView.make s.level s.format = .ok view ∧ LogFormat.fault? view.format = none := by
  constructor
  · rintro ⟨⟨name, known, level, upper, ranked⟩, format⟩
    obtain ⟨rank, ranked⟩ := Option.isSome_iff_exists.mp ranked
    have read := LogView.readLevel_eq_ok_iff.mpr ⟨name, known, level, upper, ranked⟩
    cases truthy : s.format.isTruthy with
    | false =>
      have text := LogView.readFormat_of_not_truthy truthy
      exact ⟨⟨rank, "%(message)s"⟩, LogView.make_eq_ok_iff.mpr ⟨read, text⟩,
        LogFormat.fault?_message⟩
    | true =>
      obtain ⟨t, same, shaped, sound⟩ := format.resolve_left (by simp [truthy])
      have text : LogView.readFormat s.format = .ok t := by
        rw [same] at truthy ⊢
        rw [LogView.readFormat_str truthy, if_pos shaped]
      exact ⟨⟨rank, t⟩, LogView.make_eq_ok_iff.mpr ⟨read, text⟩, sound⟩
  · rintro ⟨view, made, sound⟩
    obtain ⟨level, format⟩ := LogView.make_eq_ok_iff.mp made
    obtain ⟨name, known, level, upper, ranked⟩ := LogView.readLevel_eq_ok_iff.mp level
    refine ⟨⟨name, known, level, upper, by simp [ranked]⟩, ?_⟩
    rcases LogView.readFormat_eq_ok format with ⟨nothing, -⟩ | ⟨same, shaped⟩
    · exact .inl nothing
    · exact .inr ⟨view.format, same, shaped, sound⟩

/-- Whether the level is a text, and so is the format unless it is nothing; and whether all that can
be wrong with the format is that it is none. -/
structure Plain (s : LogSettings) : Prop where
  level : ∃ name, s.level = .str name
  format : s.format.isTruthy = true →
    ∃ t, s.format = .str t ∧ (LogFormat.isFormat t.chars = true → LogFormat.fault? t = none)

/-- The log of a plain level and format shows whatever it is given. -/
theorem Plain.sound (h : s.Plain) (made : LogView.make s.level s.format = .ok view) :
    LogFormat.fault? view.format = none := by
  obtain ⟨-, format⟩ := LogView.make_eq_ok_iff.mp made
  cases truthy : s.format.isTruthy with
  | false =>
    rw [LogView.readFormat_of_not_truthy truthy] at format
    exact Except.ok.inj format ▸ LogFormat.fault?_message
  | true =>
    obtain ⟨t, same, sound⟩ := h.format truthy
    rw [same] at truthy format
    rw [LogView.readFormat_str truthy] at format
    split at format
    · rename_i shaped
      exact Except.ok.inj format ▸ sound shaped
    · cases format

/-- What is wrong with a plain level or format is that it has no name, or is no format. -/
theorem Plain.fault (h : s.Plain) {fault : LogFault}
    (failed : LogView.make s.level s.format = .error fault) :
    (∃ name, fault = .levelUnknown name) ∨ ∃ format, fault = .notAFormat format := by
  rcases LogView.make_error failed with level | format
  · obtain ⟨name, same⟩ := h.level
    rw [same] at level
    exact .inl (LogView.readLevel_error level)
  · cases truthy : s.format.isTruthy with
    | false =>
      rw [LogView.readFormat_of_not_truthy truthy] at format
      cases format
    | true =>
      obtain ⟨t, same, -⟩ := h.format truthy
      rw [same] at truthy format
      rw [LogView.readFormat_str truthy] at format
      split at format
      · cases format
      · cases format
        exact .inr ⟨_, rfl⟩

end LogSettings

end TabAudit
