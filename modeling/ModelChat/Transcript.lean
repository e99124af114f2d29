import ModelChat.Log
import ModelChat.Message

/-! The history of a conversation. -/
namespace ModelChat

/-- How many messages that are not from the system are kept at most. -/
structure Limit where
  count : Nat
  pos : 0 < count
  deriving DecidableEq, Repr

/-- The limit of a positive number; zero means none. -/
def Limit.ofNat? (n : Nat) : Option Limit :=
  if h : 0 < n then some ⟨n, h⟩ else none

namespace Message

/-- Messages that are not from the system are turns of the conversation. -/
def isTurn (m : Message) : Bool :=
  m.role ≠ .system

end Message

/-- Messages in order, the oldest first. -/
structure Transcript where
  messages : List Message
  limit : Option Limit
  deriving DecidableEq, Repr

namespace Transcript

def countTurns (ms : List Message) : Nat :=
  ms.countP Message.isTurn

/-- The messages without the oldest turn, if there is one. -/
def withoutOldest? : List Message → Option (List Message)
  | [] => none
  | m :: ms => if m.isTurn then some ms else (withoutOldest? ms).map (m :: ·)

theorem countTurns_withoutOldest {ms rest : List Message} (h : withoutOldest? ms = some rest) :
    countTurns ms = countTurns rest + 1 := by
  induction ms generalizing rest with
  | nil => simp [withoutOldest?] at h
  | cons m ms ih =>
    by_cases ht : m.isTurn
    · simp only [withoutOldest?, ht, if_true, Option.some.injEq] at h
      simp [countTurns, ht, h]
    · simp only [withoutOldest?, ht, Bool.false_eq_true, if_false, Option.map_eq_some_iff] at h
      obtain ⟨tail, htail, rfl⟩ := h
      simpa [countTurns, ht] using ih htail

/-- Drops the oldest turn as long as there are more than `max`; also gives how many went. -/
def evict (max : Nat) (ms : List Message) : List Message × Nat :=
  if max < countTurns ms then
    match _h : withoutOldest? ms with
    | some rest =>
      let (kept, gone) := evict max rest
      (kept, gone + 1)
    | none => (ms, 0)
  else (ms, 0)
termination_by countTurns ms
decreasing_by
  have := countTurns_withoutOldest ‹_›
  omega

/-- What the limit leaves of the messages, and how many it drops. -/
def retain (limit : Option Limit) (ms : List Message) : List Message × Nat :=
  match limit with
  | none => (ms, 0)
  | some l => evict l.count ms

def empty : Transcript :=
  ⟨[], none⟩

/-- Sets the limit and applies it at once. -/
def withLimit (t : Transcript) (limit : Option Limit) : Transcript × Nat :=
  let (kept, gone) := retain limit t.messages
  (⟨kept, limit⟩, gone)

/-- Appends a message; also gives how many older ones had to go. -/
def push (t : Transcript) (m : Message) : Transcript × Nat :=
  let (kept, gone) := retain t.limit (t.messages ++ [m])
  (⟨kept, t.limit⟩, gone)

/-- A dropping is noted, with its number. -/
def events (gone : Nat) : List Event :=
  if gone = 0 then [] else [.evicted gone]

def hasSystem (t : Transcript) : Bool :=
  t.messages.head?.any (·.role = .system)

def last? (t : Transcript) : Option Message :=
  t.messages.getLast?

end Transcript
end ModelChat
