import Remit.Author.MinusFee
import Remit.Proofs.Execution

/-!
The run of an authoring call. A call first collects a quote: funds, the size of the change script,
the size of the signed transaction and its fee. It then either cannot pay the fee, or settles the
quote. There is one equation for each place where a call stops.
-/

namespace Remit.Author

open Wire (Script TxOutput)

section

variable {σ α : Type}

namespace Activity

def asked (activity : Activity σ) (calls : List Call) : Activity σ :=
  { activity with calls := activity.calls ++ calls }

def logged (activity : Activity σ) (records : List Log.Record) : Activity σ :=
  { activity with records := activity.records ++ records }

def fetched (activity : Activity σ) (source : InputSource σ) (target : Int) : Activity σ :=
  let answer := source.fetch target activity.source
  ({ activity with source := answer.state }.asked [.fetch target]).logged answer.records

@[simp] theorem source_asked (activity : Activity σ) (calls : List Call) :
    (activity.asked calls).source = activity.source := rfl

@[simp] theorem source_logged (activity : Activity σ) (records : List Log.Record) :
    (activity.logged records).source = activity.source := rfl

@[simp] theorem source_fetched (activity : Activity σ) (source : InputSource σ) (target : Int) :
    (activity.fetched source target).source = (source.fetch target activity.source).state := rfl

@[simp] theorem calls_asked (activity : Activity σ) (calls : List Call) :
    (activity.asked calls).calls = activity.calls ++ calls := rfl

@[simp] theorem calls_logged (activity : Activity σ) (records : List Log.Record) :
    (activity.logged records).calls = activity.calls := rfl

@[simp] theorem calls_fetched (activity : Activity σ) (source : InputSource σ) (target : Int) :
    (activity.fetched source target).calls = activity.calls ++ [.fetch target] := rfl

@[simp] theorem asked_asked (activity : Activity σ) (first second : List Call) :
    (activity.asked first).asked second = activity.asked (first ++ second) := by
  simp [asked]

@[simp] theorem asked_logged (activity : Activity σ) (records : List Log.Record)
    (calls : List Call) :
    (activity.logged records).asked calls = (activity.asked calls).logged records := rfl

@[simp] theorem logged_logged (activity : Activity σ) (first second : List Log.Record) :
    (activity.logged first).logged second = activity.logged (first ++ second) := by
  simp [logged]

end Activity

@[simp] theorem execute_noteCall (call : Call) (activity : Activity σ) :
    execute (noteCall call) activity = (.ok (), activity.asked [call]) := rfl

@[simp] theorem execute_log (level : Log.Level) (text : String) (activity : Activity σ) :
    execute (log level text) activity =
      (.ok (), activity.logged [⟨level, Log.engineLogger, text⟩]) := rfl

/-- The failure of a collaborator as the caller sees it. -/
def blamed (operation collaborator : String) (failure : Failure) : Failure :=
  failure.annotate s!"{operation} ({collaborator})"

@[simp] theorem execute_consult (operation collaborator : String)
    (outcome : Except Failure α) (activity : Activity σ) :
    execute (consult operation collaborator outcome) activity =
      (outcome.mapError (blamed operation collaborator), activity) := by
  cases outcome <;> rfl

@[simp] theorem execute_fetchFunds (operation : String) (source : InputSource σ)
    (target : Int) (activity : Activity σ) :
    execute (fetchFunds operation source target) activity =
      ((source.fetch target activity.source).outcome.mapError
          (blamed operation "input source"),
        activity.fetched source target) := by
  unfold fetchFunds
  rw [execute_bind_ok (execute_noteCall _ _), execute_bind_ok (execute_get _),
    execute_bind_ok (execute_modify _ _), execute_consult]
  rfl

end

structure Quote where
  funds : Funding.Funds
  changeSize : Int
  size : Int
  fee : Int

namespace Quote

def surplus (quote : Quote) (payment : TxOutput) : Int :=
  quote.funds.amount - payment.value

def reduced (quote : Quote) (payment : TxOutput) : TxOutput :=
  ⟨payment.value - quote.fee, payment.script⟩

def calls (quote : Quote) (payment : TxOutput) (rate : Int) : List Call :=
  [.scriptSize, .size quote.funds.redeemSizes [payment.script.length, quote.changeSize],
    .fee rate quote.size]

end Quote

/-- The last part of a call: pays the fee out of the payment and returns the surplus. -/
def settle {σ : Type} (payment : TxOutput) (change : ChangeSource) (operation : String)
    (quote : Quote) : AuthorM σ Draft := do
  let paid := payment.value - quote.fee
  if paid < 0 then
    throw (.ofCause (.insufficient (.fee quote.fee) operation quote.funds.amount payment.value))
  let output ← changeOutput operation change quote.changeSize (quote.surplus payment)
  log .debug
    (s!"Authored tx: {quote.funds.inputs.length} inputs, payment {payment.value} -> {paid}, " ++
      s!"fee {quote.fee}, est. size {quote.size}")
  return assemble quote.funds (quote.reduced payment) output quote.size

def scriptCalls (output : Option TxOutput) : List Call :=
  output.toList.map fun _ => .script

section

variable {σ : Type} (payment : TxOutput) (rate : Int) (source : InputSource σ)
  (change : ChangeSource) (operation : String)
  (sizeEstimator : SizeEstimator) (feeEstimator : FeeEstimator)

/-- Every collaborator that a call needs before it settles has answered, and the funds reach the
payment. -/
structure Quoted (before : σ) (quote : Quote) : Prop where
  nonnegative : 0 ≤ payment.value
  gathered : (source.fetch payment.value before).outcome = .ok quote.funds
  reached : payment.value ≤ quote.funds.amount
  announced : change.scriptSize = .ok quote.changeSize
  sized : sizeEstimator quote.funds.redeemSizes [payment.script.length, quote.changeSize] =
    .ok quote.size
  priced : feeEstimator rate quote.size = .ok quote.fee

/-- The output that a surplus goes to, whose script is as long as announced. -/
inductive ReturnsSurplus (announced surplus : Int) : Option TxOutput → Prop
  | nothing (spent : surplus ≤ 0) : ReturnsSurplus announced surplus none
  | output {script : Script} {version : Int} (positive : 0 < surplus)
      (handed : change.script = .ok (script, version))
      (length : (script.length : Int) = announced) :
      ReturnsSurplus announced surplus (some ⟨surplus, script⟩)

variable {payment rate source change operation sizeEstimator feeEstimator}
  {before : Activity σ} {funds : Funding.Funds} {quote : Quote} {failure : Failure}

theorem checkedScript_eq_ok_iff {announced : Int} {answer : Script × Int} :
    checkedScript change announced = .ok answer ↔
      change.script = .ok answer ∧ (answer.1.length : Int) = announced := by
  unfold checkedScript
  cases change.script with
  | error failure => simp [bind, Except.bind]
  | ok handed =>
      by_cases fits : (handed.1.length : Int) = announced
      · simp only [bind, Except.bind, fits, ne_eq, not_true_eq_false, ↓reduceIte, pure,
          Except.pure, Except.ok.injEq]
        constructor
        · rintro rfl
          exact ⟨rfl, fits⟩
        · exact And.left
      · simp only [bind, Except.bind, fail, fits, ne_eq, not_false_eq_true, ↓reduceIte,
          Except.ok.injEq, reduceCtorEq, false_iff, not_and]
        rintro rfl
        exact fits

theorem execute_changeOutput_error {announced surplus : Int} {activity : Activity σ}
    (positive : 0 < surplus) (failed : checkedScript change announced = .error failure) :
    execute (changeOutput operation change announced surplus) activity =
      (.error (blamed operation "change source" failure), activity.asked [.script]) := by
  simp [changeOutput, execute_bind, Int.not_le.mpr positive, failed]

variable (operation) in
theorem execute_changeOutput {announced surplus : Int} {output : Option TxOutput}
    (returns : ReturnsSurplus change announced surplus output) (activity : Activity σ) :
    ∃ records, execute (changeOutput operation change announced surplus) activity =
      (.ok output, (activity.asked (scriptCalls output)).logged records) := by
  cases returns with
  | nothing spent =>
      refine ⟨[], ?_⟩
      simp [changeOutput, spent, scriptCalls, Activity.asked, Activity.logged]
  | output positive handed length =>
      have checked := checkedScript_eq_ok_iff.mpr ⟨handed, length⟩
      simp only [changeOutput, execute_bind, Int.not_le.mpr positive, ↓reduceIte, checked,
        mapError_ok, execute_noteCall, execute_consult, execute_log, execute_pure]
      exact ⟨_, rfl⟩

theorem execute_minusFee_negative (negative : payment.value < 0) :
    execute (minusFee payment rate source change operation sizeEstimator feeEstimator) before =
      (.error (.ofCause (.negativePayment payment.value)), before) := by
  simp [minusFee, negative]

theorem execute_minusFee_fetch_error (nonnegative : 0 ≤ payment.value)
    (failed : (source.fetch payment.value before.source).outcome = .error failure) :
    execute (minusFee payment rate source change operation sizeEstimator feeEstimator) before =
      (.error (blamed operation "input source" failure),
        before.fetched source payment.value) := by
  simp [minusFee, execute_bind, Int.not_lt.mpr nonnegative, failed]

theorem execute_minusFee_gathered (nonnegative : 0 ≤ payment.value)
    (gathered : (source.fetch payment.value before.source).outcome = .ok funds)
    (short : (funds.amount : Int) < payment.value) :
    execute (minusFee payment rate source change operation sizeEstimator feeEstimator) before =
      (.error (.ofCause (.insufficient .gathered operation funds.amount payment.value)),
        before.fetched source payment.value) := by
  simp [minusFee, execute_bind, Int.not_lt.mpr nonnegative, gathered, short]

section

variable (nonnegative : 0 ≤ payment.value)
  (gathered : (source.fetch payment.value before.source).outcome = .ok funds)
  (reached : payment.value ≤ funds.amount)

include nonnegative gathered reached

theorem execute_minusFee_scriptSize_error (failed : change.scriptSize = .error failure) :
    execute (minusFee payment rate source change operation sizeEstimator feeEstimator) before =
      (.error (blamed operation "change source" failure),
        (before.fetched source payment.value).asked [.scriptSize]) := by
  simp [minusFee, execute_bind, Int.not_lt.mpr nonnegative, gathered,
    Int.not_lt.mpr reached, failed]

theorem execute_minusFee_size_error {changeSize : Int}
    (announced : change.scriptSize = .ok changeSize)
    (failed : sizeEstimator funds.redeemSizes [payment.script.length, changeSize] =
      .error failure) :
    execute (minusFee payment rate source change operation sizeEstimator feeEstimator) before =
      (.error (blamed operation "size estimator" failure),
        (before.fetched source payment.value).asked
          [.scriptSize, .size funds.redeemSizes [payment.script.length, changeSize]]) := by
  simp [minusFee, execute_bind, Int.not_lt.mpr nonnegative, gathered,
    Int.not_lt.mpr reached, announced, failed]

theorem execute_minusFee_fee_error {changeSize size : Int}
    (announced : change.scriptSize = .ok changeSize)
    (sized : sizeEstimator funds.redeemSizes [payment.script.length, changeSize] = .ok size)
    (failed : feeEstimator rate size = .error failure) :
    execute (minusFee payment rate source change operation sizeEstimator feeEstimator) before =
      (.error (blamed operation "fee estimator" failure),
        (before.fetched source payment.value).asked
          [.scriptSize, .size funds.redeemSizes [payment.script.length, changeSize],
            .fee rate size]) := by
  simp [minusFee, execute_bind, Int.not_lt.mpr nonnegative, gathered,
    Int.not_lt.mpr reached, announced, sized, failed]

end

section

variable (quoted : Quoted payment rate source change sizeEstimator feeEstimator
  before.source quote)

include quoted

/-- Once there is a quote, settling it is all that remains. -/
theorem execute_minusFee_quoted :
    execute (minusFee payment rate source change operation sizeEstimator feeEstimator) before =
      execute (settle payment change operation quote)
        ((before.fetched source payment.value).asked (quote.calls payment rate)) := by
  simp only [minusFee, execute_bind, Int.not_lt.mpr quoted.nonnegative, quoted.gathered,
    mapError_ok, Int.not_lt.mpr quoted.reached, quoted.announced, quoted.sized,
    quoted.priced, ↓reduceIte, execute_fetchFunds, execute_noteCall, execute_consult,
    Activity.asked_asked]
  rfl

theorem execute_minusFee_unpaid (unpaid : payment.value < quote.fee) :
    execute (minusFee payment rate source change operation sizeEstimator feeEstimator) before =
      (.error (.ofCause (.insufficient (.fee quote.fee) operation quote.funds.amount
          payment.value)),
        (before.fetched source payment.value).asked (quote.calls payment rate)) := by
  rw [execute_minusFee_quoted quoted]
  have negative : payment.value - quote.fee < 0 := by omega
  simp [settle, negative]

theorem execute_minusFee_script_error (paid : quote.fee ≤ payment.value)
    (positive : 0 < quote.surplus payment)
    (failed : checkedScript change quote.changeSize = .error failure) :
    execute (minusFee payment rate source change operation sizeEstimator feeEstimator) before =
      (.error (blamed operation "change source" failure),
        ((before.fetched source payment.value).asked (quote.calls payment rate)).asked
          [.script]) := by
  rw [execute_minusFee_quoted quoted]
  have nonnegative : ¬ payment.value - quote.fee < 0 := by omega
  simp only [settle, nonnegative, ↓reduceIte]
  rw [execute_bind_error (execute_changeOutput_error positive failed)]

variable (operation) in
theorem execute_minusFee_settled {output : Option TxOutput}
    (paid : quote.fee ≤ payment.value)
    (returns : ReturnsSurplus change quote.changeSize (quote.surplus payment) output) :
    ∃ records,
      execute (minusFee payment rate source change operation sizeEstimator feeEstimator)
          before =
        (.ok (assemble quote.funds (quote.reduced payment) output quote.size),
          ((before.fetched source payment.value).asked
            (quote.calls payment rate ++ scriptCalls output)).logged records) := by
  rw [execute_minusFee_quoted quoted]
  have nonnegative : ¬ payment.value - quote.fee < 0 := by omega
  simp only [settle, nonnegative, ↓reduceIte]
  obtain ⟨records, run⟩ := execute_changeOutput operation returns
    ((before.fetched source payment.value).asked (quote.calls payment rate))
  rw [execute_bind_ok run, execute_bind_ok (execute_log _ _ _), execute_pure,
    Activity.asked_asked, Activity.logged_logged]
  exact ⟨_, rfl⟩

end

end

end Remit.Author
