import Mathlib.Data.List.Basic
import Mathlib.Data.List.Nodup

/-!
# Bounded channels

A channel has a buffer of fixed capacity.  An item goes straight to the receiver if it is waiting
for one, into the buffer if there is room, and otherwise waits with its sender, which can give up.

* `queue` — what has been sent and not been received, oldest first.
* `queue_send`, `queue_receive`, `receive_eq_none_iff` — it is a queue.
* `withdraw` — senders give up; `not_mem_withdraw`: what they wanted to send is gone.
-/

set_option autoImplicit false

namespace Streams

universe u v

/-- A bounded queue with one receiver. -/
structure Channel (α : Type u) (capacity : Nat) where
  /-- given to the receiver, which has not gone on yet -/
  handed : Option α := none
  buffer : List α := []
  /-- of senders that wait for room -/
  waiting : List α := []
  /-- the receiver waits for an item -/
  listening : Bool := false
  bounded : buffer.length ≤ capacity
  full : waiting ≠ [] → buffer.length = capacity
  idle : listening = true → handed = none ∧ buffer = [] ∧ waiting = []

namespace Channel

variable {α : Type u} {capacity : Nat}

def empty : Channel α capacity where
  bounded := Nat.zero_le _
  full h := absurd rfl h
  idle _ := ⟨rfl, rfl, rfl⟩

/-- What has been sent and not been received, oldest first. -/
def queue (ch : Channel α capacity) : List α := ch.handed.toList ++ ch.buffer ++ ch.waiting

/-- The receiver finds nothing and waits. -/
def listen (ch : Channel α capacity) (h : ch.queue = []) : Channel α capacity :=
  { ch with
    listening := true
    idle := fun _ => by
      unfold queue at h
      simpa using h }

def send (ch : Channel α capacity) (x : α) : Channel α capacity :=
  if ch.listening then
    { ch with handed := some x, listening := false, idle := fun h => nomatch h }
  else if h : ch.buffer.length < capacity then
    { ch with
      buffer := ch.buffer ++ [x]
      listening := false
      bounded := by
        rw [List.length_append]
        exact h
      full := fun hw => absurd (ch.full hw) (Nat.ne_of_lt h)
      idle := fun h => nomatch h }
  else
    { ch with
      waiting := ch.waiting ++ [x]
      listening := false
      full := fun _ => Nat.le_antisymm ch.bounded (Nat.not_lt.1 h)
      idle := fun h => nomatch h }

/-- Take the oldest item; the first sender that waits for room puts its item into the buffer. -/
def receive (ch : Channel α capacity) : Option (α × Channel α capacity) :=
  match ch.handed with
  | some x => some (x, { ch with
      handed := none
      idle := fun h => ⟨rfl, (ch.idle h).2⟩ })
  | none =>
    match h : ch.buffer ++ ch.waiting.take 1 with
    | [] => none
    | x :: rest => some (x, { ch with
        handed := none
        buffer := rest
        waiting := ch.waiting.drop 1
        listening := false
        bounded := by
          have hlength := congrArg List.length h
          have hbounded := ch.bounded
          simp only [List.length_append, List.length_take, List.length_cons] at hlength
          omega
        full := fun hw => by
          have hlength := congrArg List.length h
          have hwaiting : ch.waiting.length ≠ 0 := by
            intro hzero
            rw [List.length_eq_zero_iff.1 hzero] at hw
            exact hw rfl
          have hfull := ch.full fun hnil => hwaiting (by rw [hnil]; rfl)
          simp only [List.length_append, List.length_take, List.length_cons] at hlength
          omega
        idle := fun h => nomatch h })

/-- The senders whose items meet `p` give up waiting. -/
def withdraw (ch : Channel α capacity) (p : α → Bool) : Channel α capacity :=
  { ch with
    waiting := ch.waiting.filter fun x => !p x
    full := fun hw => ch.full fun hnil => hw (by rw [hnil]; rfl)
    idle := fun h => ⟨(ch.idle h).1, (ch.idle h).2.1, by rw [(ch.idle h).2.2]; rfl⟩ }

/-! ## It is a queue -/

variable {ch ch' : Channel α capacity} {x y : α}

@[simp] theorem queue_empty : (empty : Channel α capacity).queue = [] := rfl

@[simp] theorem queue_listen (h : ch.queue = []) : (ch.listen h).queue = ch.queue := rfl

/-- While the receiver waits there is nothing. -/
theorem queue_of_listening (h : ch.listening = true) : ch.queue = [] := by
  obtain ⟨hhanded, hbuffer, hwaiting⟩ := ch.idle h
  unfold queue
  rw [hhanded, hbuffer, hwaiting]
  rfl

@[simp] theorem queue_send (ch : Channel α capacity) (x : α) :
    (ch.send x).queue = ch.queue ++ [x] := by
  unfold send
  split
  · rename_i hlistening
    rw [queue_of_listening hlistening]
    obtain ⟨_, hbuffer, hwaiting⟩ := ch.idle hlistening
    simp [queue, hbuffer, hwaiting]
  · split
    · rename_i hroom
      have hwaiting : ch.waiting = [] := by
        by_contra hne
        exact absurd (ch.full hne) (Nat.ne_of_lt hroom)
      simp [queue, hwaiting]
    · simp [queue]

theorem queue_receive (h : ch.receive = some (x, ch')) : ch.queue = x :: ch'.queue := by
  unfold receive at h
  split at h
  · rename_i y hhanded
    cases h
    simp [queue, hhanded]
  · rename_i hhanded
    split at h
    · cases h
    · rename_i y rest htake
      cases h
      have hqueue : ch.queue = (ch.buffer ++ ch.waiting.take 1) ++ ch.waiting.drop 1 := by
        rw [List.append_assoc, List.take_append_drop]
        simp [queue, hhanded]
      exact hqueue.trans (congrArg (· ++ ch.waiting.drop 1) htake)

theorem receive_eq_none_iff : ch.receive = none ↔ ch.queue = [] := by
  constructor
  · intro h
    unfold receive at h
    split at h
    · cases h
    · rename_i hhanded
      split at h
      · rename_i htake
        obtain ⟨hbuffer, hwaiting⟩ := List.append_eq_nil_iff.1 htake
        have hnil : ch.waiting = [] := by simpa using hwaiting
        simp [queue, hhanded, hbuffer, hnil]
      · cases h
  · intro h
    cases hreceive : ch.receive with
    | none => rfl
    | some taken =>
      have hcons : ch.queue = taken.1 :: taken.2.queue := queue_receive hreceive
      rw [hcons] at h
      cases h

theorem sublist_withdraw (ch : Channel α capacity) (p : α → Bool) :
    List.Sublist (ch.withdraw p).queue ch.queue :=
  List.Sublist.append_left List.filter_sublist _

/-- **What a waiting sender takes back is not received.** -/
theorem not_mem_withdraw {β : Type v} [DecidableEq β] {f : α → β} (h : (ch.queue.map f).Nodup)
    (hx : x ∈ ch.waiting) (hy : y ∈ (ch.withdraw fun z => f z == f x).queue) : f y ≠ f x := by
  intro heq
  rcases List.mem_append.1 hy with hbefore | hwaiting
  · unfold queue at h
    rw [List.map_append, List.nodup_append] at h
    exact h.2.2 (f y) (List.mem_map_of_mem hbefore) (f x) (List.mem_map_of_mem hx) heq
  · have hkept := (List.mem_filter.1 hwaiting).2
    simp [heq] at hkept

end Channel

end Streams
