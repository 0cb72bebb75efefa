/-!
# Byte sources

A source answers each request for bytes with the front of what it still holds: some bytes, an
answer of no bytes, or a failure. Two stretches are never joined in one answer.
-/

namespace TabAudit

/-- One stretch of what a source will answer. -/
inductive SourceItem where
  | bytes (content : List UInt8)
  /-- The source has nothing to say for now. -/
  | nothing
  /-- The source fails, with this text. -/
  | failure (text : String)
  deriving DecidableEq, Repr

/-- What a source still holds. -/
abbrev Source := List SourceItem

/-- The answer to one request. -/
inductive SourceAnswer where
  | bytes (content : List UInt8)
  | nothing
  | failure (text : String)
  deriving DecidableEq, Repr

namespace Source

/-- The answer to a request for at most `limit` bytes, and the source after it. -/
def answer (limit : Nat) : Source → SourceAnswer × Source
  | [] => (.bytes [], [])
  | .bytes content :: rest =>
    if content.length ≤ limit then (.bytes content, rest)
    else (.bytes (content.take limit), .bytes (content.drop limit) :: rest)
  | .nothing :: rest => (.nothing, rest)
  | .failure text :: rest => (.failure text, rest)

/-- Every byte a source will give. -/
def content : Source → List UInt8
  | [] => []
  | .bytes bs :: rest => bs ++ content rest
  | _ :: rest => content rest

theorem content_answer_bytes {limit : Nat} {s s' : Source} {bs : List UInt8}
    (h : s.answer limit = (.bytes bs, s')) : s.content = bs ++ s'.content := by
  cases s with
  | nil => simp [answer] at h; simp [h, content]
  | cons item rest =>
    cases item with
    | bytes held =>
      simp only [answer] at h
      split at h
      · obtain ⟨rfl, rfl⟩ := by simpa using h
        rfl
      · obtain ⟨rfl, rfl⟩ := by simpa using h
        simp [content, ← List.append_assoc]
    | nothing => simp [answer] at h
    | failure text => simp [answer] at h

theorem content_answer_nothing {limit : Nat} {s s' : Source}
    (h : s.answer limit = (.nothing, s')) : s.content = s'.content := by
  cases s with
  | nil => simp [answer] at h
  | cons item rest =>
    cases item with
    | bytes held => simp only [answer] at h; split at h <;> simp at h
    | nothing => simp only [answer] at h; simp at h; simp [content, h]
    | failure text => simp [answer] at h

end Source

end TabAudit
