import OraclePriceFeeder.Broadcaster.Loop

/-!
# The error budget

`consecutive_errors` is a `u8` that `'process` sets to `0` on a code-0 response and to
`(consecutive_errors + 1) % 5` on any other response, calling `fetch_sequence_number` when
that is `0`. A transport-level error leaves the `'process` block by `break 'process` before
the counter is touched, and an expiration leaves the loop before it, so neither counts.

Against the spec's reading, that the counter runs over responses with a nonzero code only:

1. `run_error_budget`: along every run from `Broadcast::new` the counter is the number of
   nonzero-code responses since the last code-0 one, modulo 5, so it stays below 5 and its
   `+ 1` never wraps the `u8`; and the responses and the fetches of the run are those of
   `budgetSchedule`, which puts one fetch right after each nonzero-code response that makes
   five, ten, … of them since the last code-0 response, and none anywhere else. It comes
   from `broadcastTxPass_tracks` for one pass, by induction over the passes and the packages.
2. `transport_errors_do_not_fetch`: five transport errors in a row call no fetch.
-/

namespace OraclePriceFeeder.Broadcaster

variable {Expiration : Type}

/-! ## The spec's budget -/

/-- What the error budget is about: response codes and fetches. -/
inductive BudgetEvent
  | response (code : UInt32)
  | fetch
  deriving DecidableEq, Repr

/-- The response code or fetch an event is, if any. -/
@[simp] def Event.budgetEvent : Event Expiration → Option BudgetEvent
  | .broadcast _ _ (.response r) => some (.response r.code)
  | .fetched _ => some .fetch
  | _ => none

/-- The responses and fetches of `events`, in order. -/
def budgetView (events : List (Event Expiration)) : List BudgetEvent :=
  events.filterMap Event.budgetEvent

/-- The code of a response. -/
@[simp] def Event.responseCode : Event Expiration → Option UInt32
  | .broadcast _ _ (.response r) => some r.code
  | _ => none

/-- The codes of the responses among `events`, in order. -/
def responseCodes (events : List (Event Expiration)) : List UInt32 :=
  events.filterMap Event.responseCode

/-- The number of nonzero codes since the last code `0`, after `codes`, from `streak`. -/
def streakAfter (streak : Nat) (codes : List UInt32) : Nat :=
  codes.foldl (fun n code => if code = 0 then 0 else n + 1) streak

/-- The spec's error budget over a stream of response codes: a fetch right after each
nonzero code that brings the number of nonzero codes since the last code `0` to a multiple
of five. `streak` is that number before the stream. -/
def budgetSchedule (streak : Nat) : List UInt32 → List BudgetEvent
  | [] => []
  | code :: codes =>
    if code = 0 then .response code :: budgetSchedule 0 codes
    else if (streak + 1) % 5 = 0 then .response code :: .fetch :: budgetSchedule (streak + 1) codes
    else .response code :: budgetSchedule (streak + 1) codes

namespace ErrorBudgetLemmas

@[simp] theorem budgetView_nil : budgetView ([] : List (Event Expiration)) = [] := rfl

@[simp] theorem budgetView_cons (e : Event Expiration) (events : List (Event Expiration)) :
    budgetView (e :: events) = e.budgetEvent.toList ++ budgetView events := by
  simp only [budgetView, List.filterMap_cons]
  cases e.budgetEvent <;> rfl

@[simp] theorem budgetView_append (xs ys : List (Event Expiration)) :
    budgetView (xs ++ ys) = budgetView xs ++ budgetView ys :=
  List.filterMap_append _ _ _

@[simp] theorem responseCodes_nil : responseCodes ([] : List (Event Expiration)) = [] := rfl

@[simp] theorem responseCodes_cons (e : Event Expiration) (events : List (Event Expiration)) :
    responseCodes (e :: events) = e.responseCode.toList ++ responseCodes events := by
  simp only [responseCodes, List.filterMap_cons]
  cases e.responseCode <;> rfl

@[simp] theorem responseCodes_append (xs ys : List (Event Expiration)) :
    responseCodes (xs ++ ys) = responseCodes xs ++ responseCodes ys :=
  List.filterMap_append _ _ _

theorem streakAfter_append (streak : Nat) (xs ys : List UInt32) :
    streakAfter streak (xs ++ ys) = streakAfter (streakAfter streak xs) ys :=
  List.foldl_append _ _ _ _

@[simp] theorem streakAfter_nil (streak : Nat) : streakAfter streak [] = streak := rfl

@[simp] theorem streakAfter_singleton (streak : Nat) (code : UInt32) :
    streakAfter streak [code] = if code = 0 then 0 else streak + 1 := rfl

theorem budgetSchedule_append (streak : Nat) (xs ys : List UInt32) :
    budgetSchedule streak (xs ++ ys) =
      budgetSchedule streak xs ++ budgetSchedule (streakAfter streak xs) ys := by
  induction xs generalizing streak with
  | nil => rfl
  | cons code codes ih =>
    simp only [List.cons_append, budgetSchedule]
    split_ifs <;> simp [ih, streakAfter, *]

theorem toNat_succ_mod_five (c : UInt8) (small : c.toNat < 5) :
    ((c + 1) % 5).toNat = (c.toNat + 1) % 5 := by
  have sum : (c + 1).toNat = c.toNat + 1 := by
    show (c.toBitVec + 1#8).toNat = _
    rw [BitVec.toNat_add]
    have : c.toBitVec.toNat = c.toNat := rfl
    simp only [this, BitVec.toNat_ofNat]
    omega
  rw [UInt8.toNat_mod, sum]
  rfl

variable (b : Broadcast) (r : TxResponse) (fetched : Option UInt64)

theorem counted_consecutiveErrors (n : Nat) (counter : b.consecutiveErrors.toNat = n % 5) :
    (b.counted r).consecutiveErrors.toNat = (if r.code = 0 then 0 else n + 1) % 5 := by
  by_cases zero : r.code = 0
  · simp [Broadcast.counted, zero]
  · simp only [Broadcast.counted, zero, if_false]
    rw [toNat_succ_mod_five _ (by omega), counter, Nat.mod_add_mod]

theorem fetchesOn_iff (n : Nat) (counter : b.consecutiveErrors.toNat = n % 5) :
    b.fetchesOn r = true ↔ r.code ≠ 0 ∧ (n + 1) % 5 = 0 := by
  have step : ((b.consecutiveErrors + 1) % 5).toNat = (n + 1) % 5 := by
    rw [toNat_succ_mod_five _ (by omega), counter, Nat.mod_add_mod]
  have wraps : (b.consecutiveErrors + 1) % 5 = 0 ↔ (n + 1) % 5 = 0 := by
    rw [← step]
    exact ⟨fun h => by rw [h]; rfl, fun h => UInt8.toNat.inj (by rw [h]; rfl)⟩
  simp [Broadcast.fetchesOn, wraps]

theorem process_budget (n : Nat) (counter : b.consecutiveErrors.toNat = n % 5) :
    budgetView (@Broadcast.process Expiration b r fetched).2.1 =
      if r.code ≠ 0 ∧ (n + 1) % 5 = 0 then [.fetch] else [] := by
  rw [Broadcast.process_events]
  have fetches := fetchesOn_iff b r n counter
  split_ifs <;> simp_all

theorem process_counter (n : Nat) (counter : b.consecutiveErrors.toNat = n % 5) :
    (@Broadcast.process Expiration b r fetched).1.consecutiveErrors.toNat =
      (if r.code = 0 then 0 else n + 1) % 5 := by
  rw [Broadcast.process_consecutiveErrors, counted_consecutiveErrors b r n counter]

theorem process_responseCodes :
    responseCodes (@Broadcast.process Expiration b r fetched).2.1 = [] := by
  rw [Broadcast.process_events]
  split_ifs <;> simp

/-- What the budget needs to know of a run so far: the counter is the streak modulo 5, and
the responses and fetches are the scheduled ones. -/
def Tracks (streak : Nat) (b : Broadcast) (events : List (Event Expiration)) : Prop :=
  b.consecutiveErrors.toNat = streakAfter streak (responseCodes events) % 5 ∧
    budgetView events = budgetSchedule streak (responseCodes events)

variable (package : TxPackage Expiration) (a : Attempt)

theorem broadcastTxPass_tracks (n : Nat) (counter : b.consecutiveErrors.toNat = n % 5) :
    Tracks n (b.broadcastTxPass package a).broadcast (b.broadcastTxPass package a).events := by
  by_cases signed : (a.simulationSigned && a.signed) = true
  · cases response : a.broadcast with
    | expired =>
      simp [Tracks, Broadcast.broadcastTxPass_of_expired b package a signed response,
        Broadcast.passPrelude, response, counter, budgetSchedule]
    | failed =>
      simp [Tracks, Broadcast.broadcastTxPass_of_failed b package a signed response,
        Broadcast.passPrelude, response, counter, budgetSchedule]
    | response r =>
      rw [Broadcast.broadcastTxPass_of_response b r package a signed response]
      simp only [Tracks, budgetView_append, responseCodes_append, apply_ite budgetView,
        apply_ite responseCodes, budgetView_cons, responseCodes_cons, budgetView_nil,
        responseCodes_nil, Event.budgetEvent, Event.responseCode, Option.toList_none,
        List.append_nil, ite_self, Broadcast.passPrelude, response, Option.toList_some,
        List.singleton_append, List.nil_append, process_budget b r a.fetched n counter,
        process_responseCodes, process_counter b r a.fetched n counter, streakAfter_singleton]
      refine ⟨trivial, ?_⟩
      simp only [budgetSchedule]
      split_ifs <;> simp_all
  · rw [Broadcast.broadcastTxPass_of_not_signed b package a (by simpa using signed)]
    constructor <;> split <;> simp [counter, budgetSchedule]

/-- Tracking composes: after `events` from `streak`, then `more`. -/
theorem tracks_append {streak : Nat} {b b' : Broadcast} {events more : List (Event Expiration)}
    (first : Tracks streak b events)
    (next : Tracks (streakAfter streak (responseCodes events)) b' more) :
    Tracks streak b' (events ++ more) := by
  obtain ⟨_, schedule⟩ := first
  obtain ⟨counter', schedule'⟩ := next
  refine ⟨by simpa [streakAfter_append] using counter', ?_⟩
  simp [budgetSchedule_append, schedule, schedule']

theorem broadcastTx_tracks (attempts : List Attempt) (n : Nat)
    (counter : b.consecutiveErrors.toNat = n % 5) :
    Tracks n (b.broadcastTx package attempts).broadcast (b.broadcastTx package attempts).events := by
  induction attempts generalizing b n with
  | nil => simp [Broadcast.broadcastTx, Tracks, counter, budgetSchedule]
  | cons a rest ih =>
    have pass := broadcastTxPass_tracks b package a n counter
    simp only [Broadcast.broadcastTx]
    split
    · exact pass
    · exact tracks_append pass (ih _ _ pass.1)

theorem run_tracks (received : List (Option (TxPackage Expiration))) (attempts : List Attempt)
    (n : Nat) (counter : b.consecutiveErrors.toNat = n % 5) :
    Tracks n (b.run received attempts).broadcast (b.run received attempts).events := by
  induction received generalizing b attempts n with
  | nil => simp [Broadcast.run, Tracks, counter, budgetSchedule]
  | cons package received ih =>
    cases package with
    | none => simp [Broadcast.run, Tracks, counter, budgetSchedule]
    | some package =>
      have progress := broadcastTx_tracks b package attempts n counter
      simp only [Broadcast.run]
      split
      · simpa [Tracks] using progress
      · simpa [Tracks] using progress
      · have rest := ih _ (b.broadcastTx package attempts).rest _ progress.1
        simpa [Tracks] using tracks_append progress rest

end ErrorBudgetLemmas

open ErrorBudgetLemmas

/-! ## Every run -/

/-- The error budget of every run from `Broadcast::new`: `consecutive_errors` stays below 5,
so its `+ 1` never wraps the `u8`; it is the number of nonzero-code responses since the last
code-0 one, modulo 5, so a code-0 response resets it and a transport error or an expiration
neither counts nor resets; and `fetch_sequence_number` is called exactly where
`budgetSchedule` puts a fetch, once right after every fifth such response. -/
theorem run_error_budget (signer : Signer) (delayDuration retryDelayDuration : Duration)
    (received : List (Option (TxPackage Expiration))) (attempts : List Attempt) :
    let r := (Broadcast.new signer delayDuration retryDelayDuration).run received attempts
    r.broadcast.consecutiveErrors < 5 ∧
      r.broadcast.consecutiveErrors.toNat = streakAfter 0 (responseCodes r.events) % 5 ∧
      budgetView r.events = budgetSchedule 0 (responseCodes r.events) := by
  obtain ⟨counter, schedule⟩ :=
    run_tracks (Broadcast.new signer delayDuration retryDelayDuration) received attempts 0 rfl
  refine ⟨?_, counter, schedule⟩
  have bound := Nat.mod_lt (streakAfter 0 (responseCodes
    ((Broadcast.new signer delayDuration retryDelayDuration).run received attempts).events))
    (show 0 < 5 by decide)
  rw [← counter] at bound
  exact bound

/-- Five passes in a row that end in a transport-level error. -/
def transportFailures : List Attempt :=
  List.replicate 5 ⟨true, none, true, .failed, none⟩

/-- Five consecutive transport errors call no `fetch_sequence_number` and leave
`consecutive_errors` at `0`: they are not counted. -/
theorem transport_errors_do_not_fetch :
    let r := (Broadcast.new ⟨7⟩ ⟨0⟩ ⟨0⟩).run [some (⟨⟨[]⟩, 100, 50, ()⟩ : TxPackage Unit)]
      transportFailures
    budgetView r.events = [] ∧ r.broadcast.consecutiveErrors = 0 ∧ r.result = none := by
  decide

end OraclePriceFeeder.Broadcaster
