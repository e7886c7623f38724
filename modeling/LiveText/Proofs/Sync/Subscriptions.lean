import Mathlib.Data.List.Nodup
import LiveText.Sync.Channel

/-!
# Whose subscription a handle ends

Who subscribes to a channel is given a handle to end the subscription with. A handle knows its
subscriber, not its subscription: it ends the first subscription of the subscriber that is left. So a
handle that is called twice can end two subscriptions, and one that is called for the first time can
end an earlier subscription than its own.

A `ChannelHistory` is a channel together with what was done to it. If every handle ended its own
subscription and that one only, then the subscribers would be `owned`.
**`subscribers_eq_owned_iff`** says of a run when they are, at every moment of it: when no call of a
handle does harm (`Harmless`).

## What is here

* `Event`, `happen` and `after`: the runs of events, the latest one first.
* `held` and `owned`: the subscriptions that are left if handles own them.
* `erase_eq_filter_iff`: when the first entry of a subscriber can be taken away for another one of its
  entries.
* `call_iff` is a step of a run, `subscribers_eq_owned_iff` the run.
-/

set_option autoImplicit false

namespace LiveText

/-- A channel with what was done to it. -/
structure ChannelHistory (α : Type) where
  channel : Channel α := {}
  /-- who was subscribed, in order; a subscription has its place here as its number -/
  subscribed : List α := []
  /-- the numbers of the subscriptions whose handles were called -/
  called : List Nat := []

namespace ChannelHistory

/-! ## Runs of events -/

/-- One thing that is done to a channel. -/
inductive Event (α : Type)
  | subscribe (a : α)
  /-- the handle of the subscription of a number is called, if there is one -/
  | call (number : Nat)

variable {α : Type} [DecidableEq α]

/-- The history with one more event. -/
def happen (e : Event α) (h : ChannelHistory α) : ChannelHistory α :=
  match e with
  | .subscribe a => { h with channel := h.channel.subscribe a, subscribed := h.subscribed ++ [a] }
  | .call n =>
    match h.subscribed[n]? with
    | some a => { h with channel := h.channel.unsubscribe a, called := n :: h.called }
    | none => h

/-- The history of a new channel to which events happened, the latest one first. -/
def after : List (Event α) → ChannelHistory α
  | [] => {}
  | e :: es => (after es).happen e

/-! ## What is left if handles own subscriptions -/

/-- The subscriptions whose own handles were not called, with their numbers. -/
def held (h : ChannelHistory α) : List (α × Nat) :=
  h.subscribed.zipIdx.filter fun s => !h.called.contains s.2

/-- The subscribers whose own handles were not called, in the order of their subscriptions. -/
def owned (h : ChannelHistory α) : List α := h.held.map Prod.fst

/-- The call of a handle does no harm: if it was called before, then nobody is left whom it could
end, and if not, then no other subscriber stands between its own subscription and an earlier one of
its subscriber. -/
def Harmless (h : ChannelHistory α) (n : Nat) : Prop :=
  ∀ a, h.subscribed[n]? = some a →
    (n ∈ h.called → a ∉ h.owned) ∧
      (n ∉ h.called → ∀ s ∈ h.held, ∀ t ∈ h.held, s.1 = a → s.2 < t.2 → t.2 < n → t.1 = a)

variable {h : ChannelHistory α}

omit [DecidableEq α] in
theorem mem_held_iff {a : α} {n : Nat} :
    (a, n) ∈ h.held ↔ h.subscribed[n]? = some a ∧ n ∉ h.called := by
  rw [held, List.mem_filter, List.mem_zipIdx_iff_getElem?]
  simp

omit [DecidableEq α] in
/-- Subscriptions are left in the order of their numbers. -/
theorem pairwise_held (h : ChannelHistory α) : h.held.Pairwise fun s t => s.2 < t.2 := by
  have hnumbers : (h.subscribed.zipIdx.map Prod.snd).Pairwise (· < ·) := by
    rw [List.zipIdx_map_snd]
    exact List.pairwise_lt_range'
  exact (List.pairwise_map.1 hnumbers).filter _

/-! ## Taking the first entry for another one -/

section
variable {a : α} {n : Nat} {l : List (α × Nat)}

omit [DecidableEq α] in
/-- The first number is in front of all others. -/
theorem filter_cons_self (hl : ((a, n) :: l).Pairwise fun s t => s.2 < t.2) :
    ((a, n) :: l).filter (·.2 != n) = l := by
  have hne : ∀ t ∈ l, (t.2 != n) = true := fun t ht =>
    bne_iff_ne.2 (Nat.ne_of_gt (List.rel_of_pairwise_cons hl ht))
  rw [List.filter_cons_of_neg (by simp), List.filter_eq_self.2 hne]

omit [DecidableEq α] in
theorem filter_cons_of_lt {x : α × Nat} (h : x.2 < n) :
    (x :: l).filter (·.2 != n) = x :: l.filter (·.2 != n) :=
  List.filter_cons_of_pos (bne_iff_ne.2 (Nat.ne_of_lt h))

variable (hl : l.Pairwise fun s t => s.2 < t.2) (hmem : (a, n) ∈ l)
include hl hmem

omit [DecidableEq α] in
/-- Entries are what they are without the one of a number and with one more in front if and only if
they are all alike up to that number. -/
theorem map_eq_cons_filter_iff :
    l.map Prod.fst = a :: (l.filter (·.2 != n)).map Prod.fst ↔ ∀ t ∈ l, t.2 < n → t.1 = a := by
  induction l with
  | nil => cases hmem
  | cons x l ih =>
    obtain ⟨hx, hrest⟩ := List.pairwise_cons.1 hl
    rcases List.mem_cons.1 hmem with rfl | hmem
    · rw [filter_cons_self hl]
      refine iff_of_true rfl (List.forall_mem_cons.2 ⟨fun hlt => ?_, fun t ht hlt => ?_⟩)
      · exact absurd hlt (Nat.lt_irrefl n)
      · exact absurd (hx t ht) (Nat.lt_asymm hlt)
    · have hlt : x.2 < n := hx _ hmem
      rw [filter_cons_of_lt hlt, List.map_cons, List.map_cons,
        List.cons.injEq, List.forall_mem_cons, imp_iff_right hlt]
      refine and_congr_right fun heq => ?_
      rw [heq]
      exact ih hrest hmem

/-- The first entry of a subscriber can be taken away for the entry of a number if and only if no
other subscriber stands between them. -/
theorem erase_eq_filter_iff :
    (l.map Prod.fst).erase a = (l.filter (·.2 != n)).map Prod.fst ↔
      ∀ s ∈ l, ∀ t ∈ l, s.1 = a → s.2 < t.2 → t.2 < n → t.1 = a := by
  induction l with
  | nil => cases hmem
  | cons x l ih =>
    obtain ⟨hx, hrest⟩ := List.pairwise_cons.1 hl
    have hfirst : ∀ s ∈ x :: l, ¬s.2 < x.2 := List.forall_mem_cons.2
      ⟨Nat.lt_irrefl _, fun s hs => Nat.lt_asymm (hx s hs)⟩
    rcases List.mem_cons.1 hmem with rfl | hmem
    · rw [filter_cons_self hl]
      refine iff_of_true (List.erase_cons_head a _) fun s _ t ht _ _ hlt => ?_
      exact absurd hlt (hfirst t ht)
    · have hlt : x.2 < n := hx _ hmem
      rw [filter_cons_of_lt hlt, List.map_cons, List.map_cons]
      by_cases heq : x.1 = a
      · -- the first entry is one of the subscriber's
        rw [heq, List.erase_cons_head, map_eq_cons_filter_iff hrest hmem]
        refine ⟨fun h s hs t ht _ hst htn => ?_, fun h t ht htn => ?_⟩
        · rcases List.mem_cons.1 ht with rfl | ht
          · exact heq
          · exact h t ht htn
        · exact h x List.mem_cons_self t (List.mem_cons_of_mem x ht) heq (hx t ht) htn
      · rw [List.erase_cons_tail (by simpa using heq), List.cons_inj_right, ih hrest hmem]
        refine ⟨fun h s hs t ht hsa hst htn => ?_, fun h s hs t ht => ?_⟩
        · have hs : s ∈ l := (List.mem_cons.1 hs).resolve_left fun hsx => heq (hsx ▸ hsa)
          have ht : t ∈ l := (List.mem_cons.1 ht).resolve_left fun htx => by
            rw [htx] at hst
            exact Nat.lt_asymm hst (hx s hs)
          exact h s hs t ht hsa hst htn
        · exact h s (List.mem_cons_of_mem x hs) t (List.mem_cons_of_mem x ht)

end

/-! ## Steps -/

/-- A handle was called only if there is one. -/
def Sound (h : ChannelHistory α) : Prop := ∀ n ∈ h.called, n < h.subscribed.length

theorem held_subscribe (hs : h.Sound) (a : α) :
    (h.happen (.subscribe a)).held = h.held ++ [(a, h.subscribed.length)] := by
  have hnew : h.subscribed.length ∉ h.called := fun hmem => Nat.lt_irrefl _ (hs _ hmem)
  rw [held, happen, List.zipIdx_append, List.filter_append]
  simp [held, hnew]

theorem happen_call {n : Nat} {a : α} (hn : h.subscribed[n]? = some a) :
    h.happen (.call n) = { h with channel := h.channel.unsubscribe a, called := n :: h.called } := by
  rw [happen, hn]

theorem held_call {n : Nat} {a : α} (hn : h.subscribed[n]? = some a) :
    (h.happen (.call n)).held = h.held.filter (·.2 != n) := by
  rw [happen_call hn, held, held, List.filter_filter]
  refine List.filter_congr fun s _ => ?_
  rw [List.contains_cons, Bool.not_or]
  rfl

theorem Sound.happen (hs : h.Sound) (e : Event α) : (h.happen e).Sound := by
  cases e with
  | subscribe a =>
    intro n hn
    rw [ChannelHistory.happen, List.length_append]
    exact Nat.lt_succ_of_lt (hs n hn)
  | call n =>
    rw [ChannelHistory.happen]
    split
    · next a ha =>
      exact List.forall_mem_cons.2 ⟨(List.getElem?_eq_some_iff.1 ha).1, hs⟩
    · exact hs

theorem sound_after (es : List (Event α)) : (after es).Sound := by
  induction es with
  | nil => exact fun n hn => absurd hn List.not_mem_nil
  | cons e es ih => exact ih.happen e

/-- A new subscription is the last one. -/
theorem subscribers_subscribe (hs : h.Sound) (heq : h.channel.subscribers = h.owned) (a : α) :
    (h.happen (.subscribe a)).channel.subscribers = (h.happen (.subscribe a)).owned := by
  rw [owned, held_subscribe hs, List.map_append]
  exact congrArg (· ++ [a]) heq

/-- **A handle ends its own subscription and no other one** if and only if its call does no harm. -/
theorem call_iff (heq : h.channel.subscribers = h.owned) (n : Nat) :
    (h.happen (.call n)).channel.subscribers = (h.happen (.call n)).owned ↔ h.Harmless n := by
  cases hn : h.subscribed[n]? with
  | none =>
    have hnone : h.happen (.call n) = h := by rw [happen, hn]
    rw [hnone]
    refine iff_of_true heq fun a ha => ?_
    rw [hn] at ha
    cases ha
  | some a =>
    have hsubscribers : (h.happen (.call n)).channel.subscribers = h.owned.erase a := by
      rw [happen_call hn, ← heq]
      rfl
    have hharmless : h.Harmless n ↔ (n ∈ h.called → a ∉ h.owned) ∧
        (n ∉ h.called → ∀ s ∈ h.held, ∀ t ∈ h.held, s.1 = a → s.2 < t.2 → t.2 < n → t.1 = a) := by
      rw [Harmless, hn]
      exact ⟨fun h => h a rfl, by rintro h b ⟨⟩; exact h⟩
    have howned : (h.happen (.call n)).owned = (h.held.filter (·.2 != n)).map Prod.fst :=
      congrArg (List.map Prod.fst) (held_call hn)
    rw [hsubscribers, howned, hharmless]
    by_cases hcalled : n ∈ h.called
    · have hkeep : h.held.filter (·.2 != n) = h.held := by
        refine List.filter_eq_self.2 fun s hs => bne_iff_ne.2 ?_
        rintro rfl
        exact (mem_held_iff.1 hs).2 hcalled
      rw [hkeep, ← owned, List.erase_eq_self_iff]
      exact ⟨fun h => ⟨fun _ => h, absurd hcalled⟩, fun h => h.1 hcalled⟩
    · rw [owned, erase_eq_filter_iff h.pairwise_held (mem_held_iff.2 ⟨hn, hcalled⟩)]
      exact ⟨fun h => ⟨fun hc => absurd hc hcalled, fun _ => h⟩, fun h => h.2 hcalled⟩

/-! ## Runs -/

omit [DecidableEq α] in
/-- Where nobody is subscribed twice, no handle does harm. -/
theorem harmless_of_nodup (hnodup : h.subscribed.Nodup) (n : Nat) : h.Harmless n := by
  have hown : ∀ {a m}, (a, m) ∈ h.held → h.subscribed[n]? = some a → m = n := by
    intro a m hm hn
    have hm := (mem_held_iff.1 hm).1
    exact (List.getElem?_inj (List.getElem?_eq_some_iff.1 hm).1 hnodup).1 (hm.trans hn.symm)
  intro a ha
  refine ⟨fun hcalled howned => ?_, fun _ s hs t _ hsa hst htn => ?_⟩
  · obtain ⟨s, hs, rfl⟩ := List.mem_map.1 howned
    exact (mem_held_iff.1 hs).2 (hown hs ha ▸ hcalled)
  · have hsn : s.2 = n := hown hs (hsa ▸ ha)
    omega

theorem subscribers_eq_owned_of_nodup {es : List (Event α)} (hnodup : (after es).subscribed.Nodup) :
    (after es).channel.subscribers = (after es).owned := by
  induction es with
  | nil => rfl
  | cons e es ih =>
    cases e with
    | subscribe a =>
      exact subscribers_subscribe (sound_after es) (ih (List.nodup_append.1 hnodup).1) a
    | call n =>
      have hpast : (after es).subscribed.Nodup := by
        rw [after, happen] at hnodup
        split at hnodup <;> exact hnodup
      exact (call_iff (ih hpast) n).2 (harmless_of_nodup hpast n)

/-- **The subscribers are at every moment those whose own handles were not called** if and only if no
call of a handle does harm, and so they are if nobody was subscribed twice. -/
theorem subscribers_eq_owned_iff (es : List (Event α)) :
    ((∀ past, past <:+ es → (after past).channel.subscribers = (after past).owned) ↔
      ∀ n past, .call n :: past <:+ es → (after past).Harmless n) ∧
    ((after es).subscribed.Nodup → (after es).channel.subscribers = (after es).owned) := by
  refine ⟨?_, subscribers_eq_owned_of_nodup⟩
  induction es with
  | nil =>
    refine iff_of_true (fun past hpast => ?_) fun n past hpast => ?_
    · rw [List.suffix_nil.1 hpast]
      rfl
    · cases List.suffix_nil.1 hpast
  | cons e es ih =>
    constructor
    · intro h n past hpast
      rcases List.suffix_cons_iff.1 hpast with heq | hpast
      · obtain ⟨rfl, rfl⟩ := List.cons.inj heq
        exact (call_iff (h past (List.suffix_cons _ past)) n).1 (h _ List.suffix_rfl)
      · exact ih.1 (fun past hp => h past (hp.trans (List.suffix_cons e es))) n past hpast
    · intro h past hpast
      have hes := ih.2 fun n past hp => h n past (hp.trans (List.suffix_cons e es))
      rcases List.suffix_cons_iff.1 hpast with rfl | hpast
      · cases e with
        | subscribe a => exact subscribers_subscribe (sound_after es) (hes es List.suffix_rfl) a
        | call n => exact (call_iff (hes es List.suffix_rfl) n).2 (h n es List.suffix_rfl)
      · exact hes past hpast

/-- The second handle of a subscriber is called, and another subscriber stands between its two
subscriptions: the first one ends. -/
theorem subscribers_eq_owned_iff_between :
    let es : List (Event Nat) := [.call 2, .subscribe 0, .subscribe 1, .subscribe 0]
    (after es).channel.subscribers = [1, 0] ∧ (after es).owned = [0, 1] ∧
      ∃ n past, .call n :: past <:+ es ∧ ¬(after past).Harmless n := by
  intro es
  have hsubscribers : (after es).channel.subscribers = [1, 0] := by decide
  have howned : (after es).owned = [0, 1] := by decide
  refine ⟨hsubscribers, howned, ?_⟩
  by_contra hnone
  have hharmless : ∀ n past, .call n :: past <:+ es → (after past).Harmless n :=
    fun n past hpast => by_contra fun h => hnone ⟨n, past, hpast, h⟩
  have heq := (subscribers_eq_owned_iff es).1.2 hharmless es List.suffix_rfl
  rw [hsubscribers, howned] at heq
  exact absurd heq (by decide)

end ChannelHistory
end LiveText
