import OraclePriceFeeder.Broadcaster.Loop

/-!
# The sequence number along a run

The broadcaster is the signer's only writer. This module shows what it writes:

1. `broadcastTxPass_sequenceNumber`: one pass of `'broadcast_loop` sets the sequence number
   to the value a successful `fetch_sequence_number` got, if it called one; otherwise it adds
   one when the pass got a response with code 0 or 32, and leaves it as it was when the pass
   ended in a transport error, an expiration, a signing failure or another code. Every
   transaction the pass signs carries the number the pass started with.
2. `run_sequenceNumber`: at every point of every run the sequence number is the value of the
   last successful fetch, or the initial one, plus the number of code-0 or code-32 responses
   received after it.
3. `run_signedTx_sequenceNumber`: every transaction signed along every run carries that same
   value at the point it is signed; so (`run_signedTx_sequenceNumber_between`) of two signed
   with no successful fetch between them, the later carries the earlier's number plus the
   code-0 and code-32 responses in between.

All come from one ledger, `sequenceAfter`, that reads the sequence number off the events:
each function of the loop is shown to move the signer as the ledger moves
(`process_sequenceAfter`, `broadcastTxPass_sequenceAfter`, `broadcastTx_sequenceAfter`,
`run_sequenceAfter`) and to sign with the ledger's value (`Stamped`, which composes over `++`
as the runs are built), and the ledger is split into the last fetch and the count after it
(`sequenceAfter_eq`).
-/

namespace OraclePriceFeeder.Broadcaster

variable {Expiration : Type}

/-! ## The ledger -/

/-- One event's effect on the sequence number: a successful fetch sets it, a response with
code 0 or 32 adds one, nothing else touches it. -/
@[simp] def Event.sequenceStep (n : UInt64) : Event Expiration → UInt64
  | .fetched (some v) => v
  | .broadcast _ _ (.response r) => if r.code = 0 ∨ r.code = 32 then n + 1 else n
  | _ => n

/-- The sequence number `events` account for, from `init`. -/
def sequenceAfter (init : UInt64) (events : List (Event Expiration)) : UInt64 :=
  events.foldl (fun n e => e.sequenceStep n) init

/-- The value of the last successful `fetch_sequence_number` among `events`, or `init`. -/
def lastFetched (init : UInt64) (events : List (Event Expiration)) : UInt64 :=
  events.foldl (fun v e => match e with | .fetched (some w) => w | _ => v) init

/-- The number of responses with code 0 or 32 after the last successful fetch. -/
def admittedSinceFetch (events : List (Event Expiration)) : Nat :=
  events.foldl (fun n e => match e with
    | .fetched (some _) => 0
    | .broadcast _ _ (.response r) => if r.code = 0 ∨ r.code = 32 then n + 1 else n
    | _ => n) 0

/-- The value a successful `fetch_sequence_number` got. -/
@[simp] def Event.fetchedValue : Event Expiration → Option UInt64
  | .fetched value => value
  | _ => none

/-- The value a successful `fetch_sequence_number` among `events` got, if one did. -/
def fetchedValue (events : List (Event Expiration)) : Option UInt64 :=
  events.findSome? Event.fetchedValue

/-- A response with code 0 or 32. -/
@[simp] def Event.admittedResponse : Event Expiration → Bool
  | .broadcast _ _ (.response r) => decide (r.code = 0 ∨ r.code = 32)
  | _ => false

/-- Whether `events` hold a response with code 0 or 32. -/
def receivedAdmitted (events : List (Event Expiration)) : Bool :=
  events.any Event.admittedResponse

/-- The transaction an event carries: the one simulated, or the one broadcast. -/
@[simp] def Event.signedTx : Event Expiration → Option RawTx
  | .simulated tx _ => some tx
  | .broadcast tx _ _ => some tx
  | _ => none

/-- The transactions `events` sign, in order. -/
def signedTxs (events : List (Event Expiration)) : List RawTx :=
  events.filterMap Event.signedTx

/-- Every transaction `events` sign carries the ledger's value, from `n`, at the point it is
signed. -/
def Stamped : UInt64 → List (Event Expiration) → Prop
  | _, [] => True
  | n, e :: events =>
    (∀ tx ∈ e.signedTx, tx.sequenceNumber = n) ∧ Stamped (e.sequenceStep n) events

instance Stamped.decidable : ∀ (n : UInt64) (events : List (Event Expiration)),
    Decidable (Stamped n events)
  | _, [] => inferInstanceAs (Decidable True)
  | n, e :: events =>
    have := Stamped.decidable (e.sequenceStep n) events
    inferInstanceAs (Decidable (_ ∧ _))

namespace SequenceNumberLemmas

@[simp] theorem sequenceAfter_nil (init : UInt64) :
    sequenceAfter init ([] : List (Event Expiration)) = init := rfl

@[simp] theorem sequenceAfter_cons (init : UInt64) (e : Event Expiration)
    (events : List (Event Expiration)) :
    sequenceAfter init (e :: events) = sequenceAfter (e.sequenceStep init) events := rfl

@[simp] theorem sequenceAfter_append (init : UInt64) (xs ys : List (Event Expiration)) :
    sequenceAfter init (xs ++ ys) = sequenceAfter (sequenceAfter init xs) ys :=
  List.foldl_append _ _ _ _

/-- The code's test in front of `increment_sequence_number` is the ledger's: code 0 or 32. -/
@[simp] theorem admitted_eq_true (r : TxResponse) :
    r.admitted = true ↔ r.code = 0 ∨ r.code = 32 := by
  simp [TxResponse.admitted]

theorem uint64_ofNat_succ (n : Nat) : UInt64.ofNat (n + 1) = UInt64.ofNat n + 1 :=
  UInt64.eq_of_toBitVec_eq (BitVec.ofNat_add n 1)

/-- The ledger is the last fetch plus the admitted responses after it, from any start. -/
theorem foldl_sequenceStep (v : UInt64) (n : Nat) (events : List (Event Expiration)) :
    events.foldl (fun m e => e.sequenceStep m) (v + UInt64.ofNat n) =
      lastFetched v events + UInt64.ofNat (events.foldl (fun n e => match e with
        | .fetched (some _) => 0
        | .broadcast _ _ (.response r) => if r.code = 0 ∨ r.code = 32 then n + 1 else n
        | _ => n) n) := by
  induction events generalizing v n with
  | nil => rfl
  | cons e events ih =>
    simp only [List.foldl_cons, lastFetched] at ih ⊢
    cases e with
    | fetched value =>
      cases value with
      | none => exact ih v n
      | some w => simpa using ih w 0
    | broadcast tx expiration result =>
      cases result with
      | response r =>
        by_cases admitted : r.code = 0 ∨ r.code = 32
        · simpa [Event.sequenceStep, admitted, uint64_ofNat_succ, add_assoc] using ih v (n + 1)
        · simpa [Event.sequenceStep, admitted] using ih v n
      | expired => exact ih v n
      | failed => exact ih v n
    | received => exact ih v n
    | simulated => exact ih v n
    | delivered => exact ih v n
    | slept => exact ih v n

theorem sequenceAfter_eq (init : UInt64) (events : List (Event Expiration)) :
    sequenceAfter init events =
      lastFetched init events + UInt64.ofNat (admittedSinceFetch events) := by
  simpa using foldl_sequenceStep init 0 events

@[simp] theorem fetchedValue_nil : fetchedValue ([] : List (Event Expiration)) = none := rfl

@[simp] theorem fetchedValue_cons (e : Event Expiration) (events : List (Event Expiration)) :
    fetchedValue (e :: events) = e.fetchedValue.or (fetchedValue events) := by
  simp only [fetchedValue, List.findSome?_cons]
  cases e.fetchedValue <;> rfl

@[simp] theorem fetchedValue_append (xs ys : List (Event Expiration)) :
    fetchedValue (xs ++ ys) = (fetchedValue xs).or (fetchedValue ys) :=
  List.findSome?_append

@[simp] theorem receivedAdmitted_nil : receivedAdmitted ([] : List (Event Expiration)) = false :=
  rfl

@[simp] theorem receivedAdmitted_cons (e : Event Expiration) (events : List (Event Expiration)) :
    receivedAdmitted (e :: events) = (e.admittedResponse || receivedAdmitted events) := rfl

@[simp] theorem receivedAdmitted_append (xs ys : List (Event Expiration)) :
    receivedAdmitted (xs ++ ys) = (receivedAdmitted xs || receivedAdmitted ys) :=
  List.any_append

@[simp] theorem signedTxs_nil : signedTxs ([] : List (Event Expiration)) = [] := rfl

@[simp] theorem signedTxs_cons (e : Event Expiration) (events : List (Event Expiration)) :
    signedTxs (e :: events) = e.signedTx.toList ++ signedTxs events := by
  simp only [signedTxs, List.filterMap_cons]
  cases e.signedTx <;> rfl

variable (b : Broadcast) (r : TxResponse) (fetched : Option UInt64)

@[simp] theorem signedTxs_append (xs ys : List (Event Expiration)) :
    signedTxs (xs ++ ys) = signedTxs xs ++ signedTxs ys :=
  List.filterMap_append _ _ _

theorem process_fetchedValue :
    fetchedValue (@Broadcast.process Expiration b r fetched).2.1 =
      if b.fetchesOn r then fetched else none := by
  rw [Broadcast.process_events]
  split_ifs <;> simp

theorem process_receivedAdmitted :
    receivedAdmitted (@Broadcast.process Expiration b r fetched).2.1 = false := by
  rw [Broadcast.process_events]
  split_ifs <;> simp

theorem process_signedTxs :
    signedTxs (@Broadcast.process Expiration b r fetched).2.1 = [] := by
  rw [Broadcast.process_events]
  split_ifs <;> simp

theorem process_sequenceAfter :
    (@Broadcast.process Expiration b r fetched).1.signer.sequenceNumber =
      sequenceAfter
        (if r.admitted then b.signer.sequenceNumber + 1 else b.signer.sequenceNumber)
        (@Broadcast.process Expiration b r fetched).2.1 := by
  rw [Broadcast.process_sequenceNumber, Broadcast.process_events]
  split_ifs <;> cases fetched <;> simp [*]

variable (package : TxPackage Expiration) (a : Attempt)

theorem passPrelude_views :
    fetchedValue (b.passPrelude package a) = none ∧
      receivedAdmitted (b.passPrelude package a) =
        (match a.broadcast with | .response r => decide (r.code = 0 ∨ r.code = 32) | _ => false) ∧
      (∀ tx ∈ signedTxs (b.passPrelude package a), tx.sequenceNumber = b.signer.sequenceNumber) ∧
      sequenceAfter b.signer.sequenceNumber (b.passPrelude package a) =
        if (match a.broadcast with | .response r => decide (r.code = 0 ∨ r.code = 32) | _ => false)
        then b.signer.sequenceNumber + 1 else b.signer.sequenceNumber := by
  obtain ⟨_, _, _, broadcast, _⟩ := a
  cases broadcast <;> simp [Broadcast.passPrelude, Event.sequenceStep]

theorem broadcastTxPass_sequenceAfter :
    (b.broadcastTxPass package a).broadcast.signer.sequenceNumber =
      sequenceAfter b.signer.sequenceNumber (b.broadcastTxPass package a).events := by
  by_cases signed : (a.simulationSigned && a.signed) = true
  · cases response : a.broadcast with
    | expired =>
      simp [Broadcast.broadcastTxPass_of_expired b package a signed response,
        Broadcast.passPrelude, response]
    | failed =>
      simp [Broadcast.broadcastTxPass_of_failed b package a signed response,
        Broadcast.passPrelude, response]
    | response r =>
      rw [Broadcast.broadcastTxPass_of_response b r package a signed response]
      split_ifs <;>
        simp [Broadcast.passPrelude, response, Event.sequenceStep, process_sequenceAfter]
  · rw [Broadcast.broadcastTxPass_of_not_signed b package a (by simpa using signed)]
    split <;> simp [Event.sequenceStep]

theorem broadcastTx_sequenceAfter (b : Broadcast) (package : TxPackage Expiration)
    (attempts : List Attempt) :
    (b.broadcastTx package attempts).broadcast.signer.sequenceNumber =
      sequenceAfter b.signer.sequenceNumber (b.broadcastTx package attempts).events := by
  induction attempts generalizing b with
  | nil => rfl
  | cons a rest ih =>
    have pass := broadcastTxPass_sequenceAfter b package a
    simp only [Broadcast.broadcastTx]
    split <;> simp_all

theorem run_sequenceAfter (b : Broadcast) (received : List (Option (TxPackage Expiration)))
    (attempts : List Attempt) :
    (b.run received attempts).broadcast.signer.sequenceNumber =
      sequenceAfter b.signer.sequenceNumber (b.run received attempts).events := by
  induction received generalizing b attempts with
  | nil => rfl
  | cons package received ih =>
    cases package with
    | none => rfl
    | some package =>
      have progress := broadcastTx_sequenceAfter b package attempts
      simp only [Broadcast.run]
      split <;> simp_all [Event.sequenceStep]

@[simp] theorem stamped_nil (n : UInt64) : Stamped n ([] : List (Event Expiration)) ↔ True :=
  Iff.rfl

@[simp] theorem stamped_cons (n : UInt64) (e : Event Expiration)
    (events : List (Event Expiration)) :
    Stamped n (e :: events) ↔
      (∀ tx ∈ e.signedTx, tx.sequenceNumber = n) ∧ Stamped (e.sequenceStep n) events :=
  Iff.rfl

theorem stamped_append (n : UInt64) (xs ys : List (Event Expiration)) :
    Stamped n (xs ++ ys) ↔ Stamped n xs ∧ Stamped (sequenceAfter n xs) ys := by
  induction xs generalizing n with
  | nil => simp
  | cons e xs ih => simp [ih, and_assoc]

/-- Events that sign nothing are stamped from any number. -/
theorem stamped_of_signedTxs_eq_nil {events : List (Event Expiration)} (n : UInt64)
    (unsigned : signedTxs events = []) : Stamped n events := by
  induction events generalizing n with
  | nil => trivial
  | cons e events ih =>
    rw [signedTxs_cons, List.append_eq_nil] at unsigned
    refine ⟨fun tx found => ?_, ih _ unsigned.2⟩
    rw [Option.mem_def.mp found] at unsigned
    simp at unsigned

theorem passPrelude_stamped :
    Stamped b.signer.sequenceNumber (b.passPrelude package a) := by
  simp [Broadcast.passPrelude]

theorem broadcastTxPass_stamped :
    Stamped b.signer.sequenceNumber (b.broadcastTxPass package a).events := by
  by_cases signed : (a.simulationSigned && a.signed) = true
  · have prelude := passPrelude_stamped b package a
    cases response : a.broadcast with
    | expired => rwa [Broadcast.broadcastTxPass_of_expired b package a signed response]
    | failed =>
      rw [Broadcast.broadcastTxPass_of_failed b package a signed response, stamped_append]
      exact ⟨prelude, stamped_of_signedTxs_eq_nil _ rfl⟩
    | response r =>
      rw [Broadcast.broadcastTxPass_of_response b r package a signed response,
        List.append_assoc, stamped_append]
      refine ⟨prelude, stamped_of_signedTxs_eq_nil _ ?_⟩
      rw [signedTxs_append, process_signedTxs, List.nil_append]
      split <;> rfl
  · rw [Broadcast.broadcastTxPass_of_not_signed b package a (by simpa using signed)]
    split <;> simp

theorem broadcastTx_stamped (b : Broadcast) (package : TxPackage Expiration)
    (attempts : List Attempt) :
    Stamped b.signer.sequenceNumber (b.broadcastTx package attempts).events := by
  induction attempts generalizing b with
  | nil => trivial
  | cons a rest ih =>
    have pass := broadcastTxPass_stamped b package a
    simp only [Broadcast.broadcastTx]
    split
    · exact pass
    · rw [stamped_append, ← broadcastTxPass_sequenceAfter]
      exact ⟨pass, ih _⟩

theorem run_stamped (b : Broadcast) (received : List (Option (TxPackage Expiration)))
    (attempts : List Attempt) :
    Stamped b.signer.sequenceNumber (b.run received attempts).events := by
  induction received generalizing b attempts with
  | nil => trivial
  | cons package received ih =>
    cases package with
    | none => trivial
    | some package =>
      have progress := broadcastTx_stamped b package attempts
      simp only [Broadcast.run]
      split
      · simpa using progress
      · simpa using progress
      · rw [stamped_append]
        refine ⟨by simpa using progress, ?_⟩
        simpa [← broadcastTx_sequenceAfter] using ih _ _

theorem sequenceStep_of_fetchedValue_eq_none {e : Event Expiration} (n : UInt64)
    (noFetch : e.fetchedValue = none) :
    e.sequenceStep n = n + if e.admittedResponse then 1 else 0 := by
  cases e with
  | fetched value => cases value <;> simp_all
  | broadcast tx expiration result =>
    cases result with
    | response r => by_cases admitted : r.code = 0 ∨ r.code = 32 <;> simp [admitted]
    | _ => simp
  | _ => simp

/-- With no successful fetch, the ledger counts the responses with code 0 or 32. -/
theorem sequenceAfter_of_fetchedValue_eq_none {events : List (Event Expiration)} (n : UInt64)
    (noFetch : fetchedValue events = none) :
    sequenceAfter n events = n + UInt64.ofNat (events.countP Event.admittedResponse) := by
  induction events generalizing n with
  | nil => simp
  | cons e events ih =>
    rw [fetchedValue_cons, Option.or_eq_none] at noFetch
    rw [sequenceAfter_cons, ih _ noFetch.2, sequenceStep_of_fetchedValue_eq_none n noFetch.1,
      List.countP_cons]
    cases e.admittedResponse
    · simp
    · simp only [if_true, uint64_ofNat_succ]
      ac_rfl

end SequenceNumberLemmas

open SequenceNumberLemmas

/-! ## One pass, and every run -/

/-- One pass of `'broadcast_loop` signs with the sequence number it starts with, and ends with
the value a successful `fetch_sequence_number` got, if it called one; otherwise with one more
than it started with when it got a response with code 0 or 32, and with the number it
started with when it did not (a transport error, an expiration, a signing failure, or another
code). -/
theorem broadcastTxPass_sequenceNumber (b : Broadcast) (package : TxPackage Expiration)
    (a : Attempt) :
    let p := b.broadcastTxPass package a
    (∀ tx ∈ signedTxs p.events, tx.sequenceNumber = b.signer.sequenceNumber) ∧
    p.broadcast.signer.sequenceNumber =
      match fetchedValue p.events with
      | some v => v
      | none =>
        if receivedAdmitted p.events then b.signer.sequenceNumber + 1
        else b.signer.sequenceNumber := by
  by_cases signed : (a.simulationSigned && a.signed) = true
  · cases response : a.broadcast with
    | expired =>
      simp [Broadcast.broadcastTxPass_of_expired b package a signed response,
        Broadcast.passPrelude, response]
    | failed =>
      simp [Broadcast.broadcastTxPass_of_failed b package a signed response,
        Broadcast.passPrelude, response]
    | response r =>
      obtain ⟨noFetch, admitted, signs, -⟩ := passPrelude_views b package a
      rw [response] at admitted
      rw [Broadcast.broadcastTxPass_of_response b r package a signed response]
      simp only [signedTxs_append, fetchedValue_append, receivedAdmitted_append,
        apply_ite signedTxs, apply_ite fetchedValue, apply_ite receivedAdmitted]
      simp only [process_signedTxs, process_fetchedValue, process_receivedAdmitted, noFetch,
        admitted, Broadcast.process_sequenceNumber, Broadcast.counted_sequenceNumber,
        signedTxs_nil, fetchedValue_nil,
        receivedAdmitted_nil, signedTxs_cons, fetchedValue_cons, receivedAdmitted_cons,
        Event.signedTx, Event.fetchedValue, Event.admittedResponse, ite_self, List.append_nil,
        Option.toList_none, List.nil_append, Option.none_or, Option.or_none, Bool.or_false,
        admitted_eq_true, decide_eq_true_eq]
      refine ⟨signs, ?_⟩
      split_ifs <;> cases a.fetched <;> rfl
  · rw [Broadcast.broadcastTxPass_of_not_signed b package a (by simpa using signed)]
    split <;> simp

/-- At every point of every run, the sequence number is the value the last successful
`fetch_sequence_number` got (the initial one if there was none) plus the number of responses
with code 0 or 32 received after it. -/
theorem run_sequenceNumber (b : Broadcast) (received : List (Option (TxPackage Expiration)))
    (attempts : List Attempt) :
    (b.run received attempts).broadcast.signer.sequenceNumber =
      lastFetched b.signer.sequenceNumber (b.run received attempts).events +
        UInt64.ofNat (admittedSinceFetch (b.run received attempts).events) := by
  rw [run_sequenceAfter, sequenceAfter_eq]

/-- The sequence-number law of the broadcaster: each pass of `'broadcast_loop` signs with the
number it starts with and moves it only as its response and its fetch say, and along every
run the number is the last fetched value plus the code-0 and code-32 responses after it. -/
theorem sequenceNumber_accounting :
    (∀ (b : Broadcast) (package : TxPackage Expiration) (a : Attempt),
      let p := b.broadcastTxPass package a
      (∀ tx ∈ signedTxs p.events, tx.sequenceNumber = b.signer.sequenceNumber) ∧
      p.broadcast.signer.sequenceNumber =
        match fetchedValue p.events with
        | some v => v
        | none =>
          if receivedAdmitted p.events then b.signer.sequenceNumber + 1
          else b.signer.sequenceNumber) ∧
    ∀ (b : Broadcast) (received : List (Option (TxPackage Expiration))) (attempts : List Attempt),
      (b.run received attempts).broadcast.signer.sequenceNumber =
        lastFetched b.signer.sequenceNumber (b.run received attempts).events +
          UInt64.ofNat (admittedSinceFetch (b.run received attempts).events) :=
  ⟨broadcastTxPass_sequenceNumber, run_sequenceNumber⟩

/-! ## Every signature of a run -/

/-- Every transaction signed along every run carries the sequence number the run's events
before it account for: the initial number, or the value the last successful
`fetch_sequence_number` got, plus the responses with code 0 or 32 received since. -/
theorem run_signedTx_sequenceNumber (b : Broadcast)
    (received : List (Option (TxPackage Expiration))) (attempts : List Attempt)
    (pre post : List (Event Expiration)) (e : Event Expiration)
    (split : (b.run received attempts).events = pre ++ e :: post) :
    ∀ tx ∈ e.signedTx, tx.sequenceNumber =
      lastFetched b.signer.sequenceNumber pre + UInt64.ofNat (admittedSinceFetch pre) := by
  have stamped := run_stamped b received attempts
  rw [split, stamped_append, stamped_cons] at stamped
  rw [← sequenceAfter_eq]
  exact stamped.2.1

/-- A package refused with code 32 and accepted on the retry, from sequence number 3: the
retry is broadcast signed with 4, the number after the one code-32 response before it. -/
theorem signature_retry_signed_next :
    let package : TxPackage Unit := ⟨⟨[]⟩, 100, 50, ()⟩
    let pre : List (Event Unit) :=
      [.received package, .simulated ⟨.tx ⟨[]⟩ 100, 3⟩ (some 80),
        .broadcast ⟨.txWithGasAdjustment ⟨[]⟩ 80 100, 3⟩ () (.response ⟨"A", 32⟩),
        .slept ⟨0⟩, .simulated ⟨.tx ⟨[]⟩ 100, 4⟩ (some 80)]
    let retry : Event Unit :=
      .broadcast ⟨.txWithGasAdjustment ⟨[]⟩ 80 100, 4⟩ () (.response ⟨"B", 0⟩)
    let post : List (Event Unit) := [.delivered ⟨"B", 0⟩, .slept ⟨0⟩]
    let r := (Broadcast.new ⟨3⟩ ⟨0⟩ ⟨0⟩).run [some package]
      [⟨true, some 80, true, .response ⟨"A", 32⟩, none⟩,
        ⟨true, some 80, true, .response ⟨"B", 0⟩, none⟩]
    r.events = pre ++ retry :: post ∧
      ∀ tx ∈ retry.signedTx,
        tx.sequenceNumber = lastFetched 3 pre + UInt64.ofNat (admittedSinceFetch pre) :=
  by
  intro package pre retry post r
  have split : r.events = pre ++ retry :: post := by
    unfold r pre retry post package
    decide
  have stamps := run_signedTx_sequenceNumber _ _ _ _ _ _ split
  exact ⟨split, stamps⟩

/-- Two transactions signed along a run with no successful `fetch_sequence_number` between
them: the later carries the earlier's sequence number plus the responses with code 0 or 32
received from the earlier one's event on, as a `u64`. -/
theorem run_signedTx_sequenceNumber_between (b : Broadcast)
    (received : List (Option (TxPackage Expiration))) (attempts : List Attempt)
    (pre mid post : List (Event Expiration)) (e₁ e₂ : Event Expiration) (tx₁ tx₂ : RawTx)
    (split : (b.run received attempts).events = pre ++ e₁ :: mid ++ e₂ :: post)
    (noFetch : fetchedValue (e₁ :: mid) = none)
    (signs₁ : tx₁ ∈ e₁.signedTx) (signs₂ : tx₂ ∈ e₂.signedTx) :
    tx₂.sequenceNumber =
      tx₁.sequenceNumber + UInt64.ofNat ((e₁ :: mid).countP Event.admittedResponse) := by
  have stamped := run_stamped b received attempts
  rw [split, stamped_append, stamped_append, stamped_cons, stamped_cons] at stamped
  obtain ⟨⟨-, first, -⟩, second, -⟩ := stamped
  rw [second tx₂ signs₂, first tx₁ signs₁, sequenceAfter_append,
    sequenceAfter_of_fetchedValue_eq_none _ noFetch]

/-- The same refused package and retry: between the two broadcasts there is no fetch and one
code-32 response, and the retry's number is the first one's plus one. -/
theorem signature_retry_signed_after :
    let package : TxPackage Unit := ⟨⟨[]⟩, 100, 50, ()⟩
    let first : RawTx := ⟨.txWithGasAdjustment ⟨[]⟩ 80 100, 3⟩
    let second : RawTx := ⟨.txWithGasAdjustment ⟨[]⟩ 80 100, 4⟩
    let mid : List (Event Unit) := [.slept ⟨0⟩, .simulated ⟨.tx ⟨[]⟩ 100, 4⟩ (some 80)]
    let e₁ : Event Unit := .broadcast first () (.response ⟨"A", 32⟩)
    let e₂ : Event Unit := .broadcast second () (.response ⟨"B", 0⟩)
    let r := (Broadcast.new ⟨3⟩ ⟨0⟩ ⟨0⟩).run [some package]
      [⟨true, some 80, true, .response ⟨"A", 32⟩, none⟩,
        ⟨true, some 80, true, .response ⟨"B", 0⟩, none⟩]
    r.events = [.received package, .simulated ⟨.tx ⟨[]⟩ 100, 3⟩ (some 80)] ++ e₁ :: mid ++
        e₂ :: [.delivered ⟨"B", 0⟩, .slept ⟨0⟩] ∧
      fetchedValue (e₁ :: mid) = none ∧ first ∈ e₁.signedTx ∧ second ∈ e₂.signedTx ∧
      second.sequenceNumber =
        first.sequenceNumber + UInt64.ofNat ((e₁ :: mid).countP Event.admittedResponse) :=
  by
  intro package first second mid e₁ e₂ r
  have split : r.events = [.received package, .simulated ⟨.tx ⟨[]⟩ 100, 3⟩ (some 80)] ++
      e₁ :: mid ++ e₂ :: [.delivered ⟨"B", 0⟩, .slept ⟨0⟩] := by
    unfold r e₁ e₂ mid first second package
    decide
  exact ⟨split, rfl, rfl, rfl,
    run_signedTx_sequenceNumber_between _ _ _ _ _ _ _ _ _ _ split rfl rfl rfl⟩

end OraclePriceFeeder.Broadcaster
