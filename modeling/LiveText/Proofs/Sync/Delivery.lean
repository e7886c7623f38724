import Mathlib.Data.List.Basic
import LiveText.Sync.Channel

/-!
# Who is called while the channel changes

A subscriber may do anything with the channel that calls it: subscribe whom it likes, end
subscriptions, and publish again, whereupon others are called before it has answered, itself among
them. It may look at all that happened before it goes on, and it may fail at any point. A `Script` is
one such behaviour, and a `Scene` is a channel with a log of what happened. Each entry of the log tells
how deep the deliveries were nested, so the calls of a delivery can be told from those of the
deliveries that its subscribers started.

**`publish_exact`** says what a delivery does whatever the scripts: it calls those who were subscribed
when it began, each of them once and in order, and waits for each answer before the next call; it counts
the answers of those that succeeded; and the channel changes by nothing but what subscribers did with
it.

## What is here

* `Script`, `Scene`, `Script.play` and `Scene.publish`: deliveries with scripts.
* `Scene.Grows`: what was added to the log, and that it is what changed the channel.
* `exists_deliver` is the induction on the subscribers, `exists_play` the one on the scripts.
* `publish_script`: the ways to respond that need no nesting, as scripts.
-/

set_option autoImplicit false

namespace LiveText
namespace Channel

/-! ## Scenes -/

/-- One thing that happens in a delivery. -/
inductive Happening (α : Type)
  | called (a : α)
  | answered (succeeded : Bool)
  | subscribed (a : α)
  | unsubscribed (a : α)
  deriving DecidableEq

/-- An entry of a log. -/
structure LogEntry (α : Type) where
  /-- the number of deliveries that go on -/
  depth : Nat
  happening : Happening α
  deriving DecidableEq

/-- A channel with a log, the first entry first. -/
structure Scene (α : Type) where
  channel : Channel α
  log : List (LogEntry α) := []

/-- A behaviour of a subscriber: what it does once it is called. -/
inductive Script (α : Type)
  | ends (succeeded : Bool)
  | subscribes (a : α) (next : Script α)
  | unsubscribes (a : α) (next : Script α)
  /-- publishes, and goes on with the number of those that succeeded; the subscribers have scripts of
  their own -/
  | publishes (scripts : α → Script α) (next : Nat → Script α)
  /-- goes on as the scene is -/
  | looks (next : Scene α → Script α)

variable {α : Type} [DecidableEq α]

/-- What a happening changes in the channel. -/
def Happening.change : Happening α → Channel α → Channel α
  | called _, c => c
  | answered _, c => c
  | subscribed a, c => c.subscribe a
  | unsubscribed a, c => c.unsubscribe a

namespace Scene

/-- The scene after a happening. -/
def happen (depth : Nat) (h : Happening α) (s : Scene α) : Scene α :=
  ⟨h.change s.channel, s.log ++ [⟨depth, h⟩]⟩

/-- Calls a subscriber that acts in a certain way. -/
def call (depth : Nat) (act : α → Scene α → Scene α × Bool) (a : α) (s : Scene α) : Scene α × Bool :=
  let (s, succeeded) := act a (s.happen depth (.called a))
  (s.happen depth (.answered succeeded), succeeded)

end Scene

/-- Acts a script out in a delivery of a depth. -/
def Script.play (depth : Nat) : Script α → Scene α → Scene α × Bool
  | ends succeeded, s => (s, succeeded)
  | subscribes a next, s => next.play depth (s.happen depth (.subscribed a))
  | unsubscribes a next, s => next.play depth (s.happen depth (.unsubscribed a))
  | publishes scripts next, s =>
    let (s, n) := publishIn Scene.channel
      (Scene.call (depth + 1) fun a => (scripts a).play (depth + 1)) s
    (next n).play depth s
  | looks next, s => (next s).play depth s

namespace Scene

/-- Calls those who are subscribed now, each of which acts its script out. -/
def publish (scripts : α → Script α) (depth : Nat) (s : Scene α) : Scene α × Nat :=
  publishIn channel (call (depth + 1) fun a => (scripts a).play (depth + 1)) s

/-! ## Growing logs -/

/-- From one scene to another the log grows by certain entries, and the channel changes by nothing
but them. -/
structure Grows (s : Scene α) (new : List (LogEntry α)) (s' : Scene α) : Prop where
  log : s'.log = s.log ++ new
  channel : s'.channel = new.foldl (fun c e => e.happening.change c) s.channel

theorem Grows.refl (s : Scene α) : s.Grows [] s := ⟨(List.append_nil _).symm, rfl⟩

theorem Grows.trans {s s' s'' : Scene α} {new new' : List (LogEntry α)} (h : s.Grows new s')
    (h' : s'.Grows new' s'') : s.Grows (new ++ new') s'' where
  log := by rw [h'.log, h.log, List.append_assoc]
  channel := by rw [h'.channel, h.channel, List.foldl_append]

theorem Grows.cons {s s' : Scene α} {depth : Nat} {h : Happening α} {new : List (LogEntry α)}
    (hgrows : (s.happen depth h).Grows new s') : s.Grows (⟨depth, h⟩ :: new) s' where
  log := hgrows.log.trans (List.append_assoc _ _ _)
  channel := hgrows.channel

end Scene

/-- The entry is a call, or the answer to one, of a delivery of a depth. -/
def LogEntry.isExchange (depth : Nat) (e : LogEntry α) : Bool :=
  e.depth == depth &&
    match e.happening with
    | .called _ => true
    | .answered _ => true
    | .subscribed _ => false
    | .unsubscribed _ => false

/-- The entries of a delivery that calls subscribers and is answered. -/
def exchanges (depth : Nat) (calls : List (α × Bool)) : List (LogEntry α) :=
  calls.flatMap fun x => [⟨depth, .called x.1⟩, ⟨depth, .answered x.2⟩]

/-- What a subscriber can bring about that is called in a delivery of a depth: nothing in the
deliveries around it, and no call in that one. -/
def LogEntry.Within (depth : Nat) (e : LogEntry α) : Prop :=
  depth ≤ e.depth ∧ e.isExchange depth = false

omit [DecidableEq α] in
/-- What happens in a deeper delivery is no exchange of this one. -/
theorem LogEntry.Within.of_lt {depth : Nat} {e : LogEntry α} (h : depth < e.depth) :
    e.Within depth := by
  have hne : (e.depth == depth) = false := beq_false_of_ne (Nat.ne_of_gt h)
  refine ⟨Nat.le_of_lt h, ?_⟩
  rw [LogEntry.isExchange, hne]
  rfl

omit [DecidableEq α] in
theorem LogEntry.filter_isExchange_of_within {depth : Nat} {new : List (LogEntry α)}
    (h : ∀ e ∈ new, e.Within depth) : new.filter (·.isExchange depth) = [] :=
  List.filter_eq_nil_iff.2 fun e he => Bool.not_eq_true _ ▸ (h e he).2

omit [DecidableEq α] in
theorem isExchange_called (depth : Nat) (a : α) :
    LogEntry.isExchange depth ⟨depth, .called a⟩ = true := by
  simp [LogEntry.isExchange]

omit [DecidableEq α] in
theorem isExchange_answered (depth : Nat) (b : Bool) :
    LogEntry.isExchange depth (⟨depth, .answered b⟩ : LogEntry α) = true := by
  simp [LogEntry.isExchange]

/-! ## Deliveries -/

/-- What is promised of a delivery of a depth to subscribers, from one scene to another. -/
structure Delivered (depth : Nat) (as : List α) (s : Scene α) (r : Scene α × Nat)
    (new : List (LogEntry α)) (answers : List Bool) : Prop where
  /-- nothing changes the channel but what is logged -/
  grows : s.Grows new r.1
  length : answers.length = as.length
  /-- the subscribers are called once each and in order, nobody else is, and each answer comes before
  the next call -/
  exchanges : new.filter (·.isExchange depth) = exchanges depth (as.zip answers)
  /-- nothing happens in the deliveries around this one -/
  depth_le : ∀ e ∈ new, depth ≤ e.depth
  /-- those are counted that succeeded -/
  count : r.2 = answers.count true

/-- A delivery goes on behind the call of its first subscriber. -/
theorem Delivered.cons {depth : Nat} {a : α} {as : List α} {s s' : Scene α} {b : Bool}
    {r : Scene α × Nat} {during new : List (LogEntry α)} {answers : List Bool}
    (hgrows : (s.happen depth (.called a)).Grows during s') (hduring : ∀ e ∈ during, e.Within depth)
    (h : Delivered depth as (s'.happen depth (.answered b)) r new answers) :
    Delivered depth (a :: as) s (r.1, if b then r.2 + 1 else r.2)
      (⟨depth, .called a⟩ :: during ++ ⟨depth, .answered b⟩ :: new) (b :: answers) where
  grows := hgrows.cons.trans h.grows.cons
  length := congrArg (· + 1) h.length
  exchanges := by
    rw [List.filter_append, List.filter_cons_of_pos (isExchange_called depth a),
      List.filter_cons_of_pos (isExchange_answered depth b),
      LogEntry.filter_isExchange_of_within hduring, h.exchanges]
    rfl
  depth_le := by
    refine List.forall_mem_append.2 ⟨List.forall_mem_cons.2 ⟨Nat.le_refl depth, ?_⟩,
      List.forall_mem_cons.2 ⟨Nat.le_refl depth, h.depth_le⟩⟩
    exact fun e he => (hduring e he).1
  count := by
    rw [h.count]
    cases b
    · rfl
    · exact List.count_cons_self.symm

/-- A delivery to subscribers whose acts stay within their calls. The induction is on the subscribers;
what the first one does changes the scene for the others but not who they are. -/
theorem exists_deliver {depth : Nat} {act : α → Scene α → Scene α × Bool}
    (hact : ∀ a (s : Scene α), ∃ new : List (LogEntry α),
      s.Grows new (act a s).1 ∧ ∀ e ∈ new, e.Within depth) (as : List α) (s : Scene α) :
    ∃ new answers, Delivered depth as s (deliver (Scene.call depth act) as s) new answers := by
  induction as generalizing s with
  | nil => exact ⟨[], [], .refl s, rfl, rfl, fun _ h => absurd h List.not_mem_nil, rfl⟩
  | cons a as ih =>
    obtain ⟨during, hgrows, hduring⟩ := hact a (s.happen depth (.called a))
    obtain ⟨rest, answers, hrest⟩ := ih (Scene.call depth act a s).1
    exact ⟨_, _, .cons hgrows hduring hrest⟩

/-- **A script stays within its call.** The induction is on the script; what a script brings about that
publishes is told by `exists_deliver`, and it is deeper. -/
theorem exists_play (script : Script α) (depth : Nat) (s : Scene α) :
    ∃ new, s.Grows new (script.play depth s).1 ∧ ∀ e ∈ new, e.Within depth := by
  induction script generalizing depth s with
  | ends succeeded => exact ⟨[], .refl s, fun _ h => absurd h List.not_mem_nil⟩
  | subscribes a next ih =>
    obtain ⟨new, hgrows, hnew⟩ := ih depth (s.happen depth (.subscribed a))
    exact ⟨_, hgrows.cons, List.forall_mem_cons.2 ⟨⟨Nat.le_refl depth, Bool.and_false _⟩, hnew⟩⟩
  | unsubscribes a next ih =>
    obtain ⟨new, hgrows, hnew⟩ := ih depth (s.happen depth (.unsubscribed a))
    exact ⟨_, hgrows.cons, List.forall_mem_cons.2 ⟨⟨Nat.le_refl depth, Bool.and_false _⟩, hnew⟩⟩
  | publishes scripts next ihscripts ihnext =>
    obtain ⟨new, answers, hnew⟩ := exists_deliver (fun a s => ihscripts a (depth + 1) s)
      s.channel.subscribers s
    obtain ⟨rest, hgrows, hrest⟩ := ihnext _ depth _
    refine ⟨new ++ rest, hnew.grows.trans hgrows, fun e he => ?_⟩
    rcases List.mem_append.1 he with he | he
    · exact .of_lt (hnew.depth_le e he)
    · exact hrest e he
  | looks next ih => exact ih s depth s

/-- **A delivery calls those who were subscribed when it began**, each of them once and in order, and
nobody else, whatever they do; it counts those that succeed, and only what they do with the channel
changes it. -/
theorem Scene.publish_exact (scripts : α → Script α) (depth : Nat) (s : Scene α) :
    ∃ new answers,
      Delivered (depth + 1) s.channel.subscribers s (s.publish scripts depth) new answers :=
  exists_deliver (fun a s => exists_play (scripts a) (depth + 1) s) s.channel.subscribers s

/-- The first subscriber ends the subscription of the second one, which is called all the same, and
subscribes a third one, which is not. -/
example :
    let s : Scene Nat := ⟨⟨[0, 1]⟩, []⟩
    let scripts : Nat → Script Nat := fun a =>
      if a = 0 then .unsubscribes 1 (.subscribes 2 (.ends true)) else .ends false
    s.publish scripts 0 = (⟨⟨[0, 2]⟩,
      [⟨1, .called 0⟩, ⟨1, .unsubscribed 1⟩, ⟨1, .subscribed 2⟩, ⟨1, .answered true⟩,
        ⟨1, .called 1⟩, ⟨1, .answered false⟩]⟩, 1) := rfl

/-! ## Ways to respond as scripts -/

/-- What a subscriber does that behaves in a certain way. -/
def Behaviour.script (a : α) : Behaviour → Script α
  | listens => .ends true
  | fails => .ends false
  | leaves => .unsubscribes a (.ends true)
  | subscribesAgain => .subscribes a (.ends true)

omit [DecidableEq α] in
/-- Subscribers that do the same with a part of the state leave the same part. -/
theorem deliver_part {σ τ : Type} (part : σ → τ) {respond : α → σ → σ × Bool}
    {respond' : α → τ → τ × Bool}
    (h : ∀ a s, respond' a (part s) = (part (respond a s).1, (respond a s).2)) (as : List α)
    (s : σ) :
    deliver respond' as (part s) = (part (deliver respond as s).1, (deliver respond as s).2) := by
  induction as generalizing s with
  | nil => rfl
  | cons a as ih => simp only [deliver, h, ih]

/-- The ways to respond are scripts. -/
theorem publish_script (behaviour : α → Behaviour) (depth : Nat) (s : Scene α) :
    s.channel.publish (fun a => (behaviour a).respond a) =
      ((s.publish (fun a => (behaviour a).script a) depth).1.channel,
        (s.publish (fun a => (behaviour a).script a) depth).2) := by
  refine deliver_part Scene.channel (fun a s => ?_) s.channel.subscribers s
  dsimp only [Scene.call]
  cases behaviour a <;> rfl

end Channel
end LiveText
