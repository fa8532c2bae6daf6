import Vertx.Lib.Keyed

/-!
# Broadcasting to a changing set of subscribers

A channel keeps the log of what was published.  A subscriber is a member from when it joins until it
leaves and receives what is published in between.  Its record says where in the log it joined and
left, so that `received_eq` can name what it has received.
-/

namespace Vertx.Broadcast

variable {α β : Type*}

/-- A subscriber with its data, what it has received, and the length of the log when it joined and
when it left. -/
structure Subscriber (α β : Type*) where
  data : β
  member : Bool
  received : List α
  joined : ℕ
  left : Option ℕ

structure Channel (α β : Type*) where
  subscribers : List (Subscriber α β)
  log : List α

inductive Action (α β : Type*)
  | join (data : β)
  | publish (a : α)
  | leave (i : ℕ)

namespace Subscriber

def receive (a : α) (s : Subscriber α β) : Subscriber α β :=
  if s.member then { s with received := s.received ++ [a] } else s

def leave (n : ℕ) (s : Subscriber α β) : Subscriber α β :=
  if s.member then { s with member := false, left := some n } else s

/-- The part of the log from when the subscriber joined until it left. -/
def segment (log : List α) (s : Subscriber α β) : List α :=
  (log.take (s.left.getD log.length)).drop s.joined

/-- The record is consistent with the log, and the subscriber has received its part of it. -/
structure Consistent (log : List α) (s : Subscriber α β) : Prop where
  received : s.received = s.segment log
  member : s.member = true ↔ s.left = none
  joined : s.joined ≤ log.length
  left : ∀ n ∈ s.left, n ≤ log.length

variable {log : List α} {s : Subscriber α β}

theorem Consistent.receive (h : s.Consistent log) (a : α) :
    (s.receive a).Consistent (log ++ [a]) := by
  obtain ⟨hreceived, hmember, hjoined, hleft⟩ := h
  unfold Subscriber.receive
  have hlen : (log ++ [a]).length = log.length + 1 := by simp
  split_ifs with hm
  · have hnone := hmember.1 hm
    refine ⟨?_, hmember, ?_, ?_⟩
    · rw [hreceived]
      simp only [segment, hnone, Option.getD_none, List.take_length]
      rw [List.drop_append_of_le_length hjoined]
    · rw [hlen]
      exact hjoined.trans (Nat.le_succ _)
    · rw [hnone]
      exact nofun
  · obtain ⟨n, hn⟩ := Option.ne_none_iff_exists'.1 fun hnone => hm (hmember.2 hnone)
    have hle := hleft n hn
    refine ⟨?_, hmember, ?_, ?_⟩
    · rw [hreceived]
      simp only [segment, hn, Option.getD_some]
      rw [List.take_append_of_le_length hle]
    · rw [hlen]
      exact hjoined.trans (Nat.le_succ _)
    · intro m hm
      rw [hlen]
      exact (hleft m hm).trans (Nat.le_succ _)

theorem Consistent.leave (h : s.Consistent log) : (s.leave log.length).Consistent log := by
  obtain ⟨hreceived, hmember, hjoined, hleft⟩ := h
  unfold Subscriber.leave
  split_ifs with hm
  · refine ⟨?_, by simp, hjoined, fun n hn => ?_⟩
    · rw [hreceived]
      simp only [segment, hmember.1 hm, Option.getD_none, Option.getD_some]
    · obtain rfl : log.length = n := by simpa using hn
      exact le_rfl
  · exact ⟨hreceived, hmember, hjoined, hleft⟩

end Subscriber

namespace Channel

def step (c : Channel α β) : Action α β → Channel α β
  | .join data => { c with subscribers := c.subscribers ++ [⟨data, true, [], c.log.length, none⟩] }
  | .publish a => { subscribers := c.subscribers.map (·.receive a), log := c.log ++ [a] }
  | .leave i => { c with subscribers := c.subscribers.modify i (·.leave c.log.length) }

/-- Every subscriber has received its part of the log. -/
def Consistent (c : Channel α β) : Prop := ∀ s ∈ c.subscribers, s.Consistent c.log

theorem consistent_step {c : Channel α β} (h : c.Consistent) (action : Action α β) :
    (c.step action).Consistent := by
  intro s hs
  cases action with
  | join data =>
    rcases List.mem_append.1 hs with hs | hs
    · exact h s hs
    · rw [List.mem_singleton.1 hs]
      show Subscriber.Consistent c.log _
      exact ⟨by simp [Subscriber.segment], by simp, le_rfl, nofun⟩
  | publish a =>
    obtain ⟨s', hs', rfl⟩ := List.mem_map.1 hs
    exact (h s' hs').receive a
  | leave i =>
    obtain ⟨j, hj⟩ := List.getElem?_of_mem hs
    simp only [step, List.getElem?_modify] at hj
    obtain ⟨s', hs', rfl⟩ := Option.map_eq_some_iff.1 hj
    have hc := h s' (List.mem_of_getElem? hs')
    split_ifs
    · exact hc.leave
    · exact hc

variable (allowed : β → α → Prop)

/-- No subscriber has received what it is not allowed to. -/
def Safe (c : Channel α β) : Prop := ∀ s ∈ c.subscribers, ∀ a ∈ s.received, allowed s.data a

/-- What an action hands out is allowed to every member. -/
def Permits (c : Channel α β) : Action α β → Prop
  | .publish a => ∀ s ∈ c.subscribers, s.member → allowed s.data a
  | _ => True

/-- A channel stays safe exactly while it publishes what all members are allowed to receive. -/
theorem safe_step_iff (c : Channel α β) (action : Action α β) :
    (c.step action).Safe allowed ↔ c.Safe allowed ∧ c.Permits allowed action := by
  cases action with
  | join data =>
    simp only [step, Safe, Permits, and_true, List.mem_append, List.mem_singleton]
    constructor
    · exact fun h s hs => h s (.inl hs)
    · rintro h s (hs | rfl) a ha
      · exact h s hs a ha
      · cases ha
  | publish a =>
    have hreceive (s : Subscriber α β) : (∀ b ∈ (s.receive a).received, allowed s.data b) ↔
        (∀ b ∈ s.received, allowed s.data b) ∧ (s.member → allowed s.data a) := by
      unfold Subscriber.receive
      split_ifs with hm
      · simp [hm, or_imp, forall_and]
      · simp [hm]
    have hdata (s : Subscriber α β) : (s.receive a).data = s.data := by
      unfold Subscriber.receive
      split_ifs <;> rfl
    simp only [step, Safe, Permits, List.forall_mem_map, hdata, hreceive]
    exact forall₂_and
  | leave i =>
    have hleave (s : Subscriber α β) : (s.leave c.log.length).received = s.received ∧
        (s.leave c.log.length).data = s.data := by
      unfold Subscriber.leave
      split_ifs <;> exact ⟨rfl, rfl⟩
    have hview : (c.subscribers.modify i (·.leave c.log.length)).map
        (fun s => (s.data, s.received)) = c.subscribers.map fun s => (s.data, s.received) :=
      Keyed.map_modify_of_eq (fun s => by rw [(hleave s).1, (hleave s).2]) i c.subscribers
    have hsafe (c : Channel α β) : c.Safe allowed ↔
        ∀ x ∈ c.subscribers.map (fun s => (s.data, s.received)), ∀ a ∈ x.2, allowed x.1 a := by
      simp only [Safe, List.forall_mem_map]
    rw [hsafe, hsafe, step, hview]
    simp [Permits]

end Channel

end Vertx.Broadcast
