import Boron.Lib.Tasks

/-- What a request still has to do: `μ` is what it finds outside, `σ` the store, `ω` the writes. -/
inductive Statements (μ σ ω ε α : Type)
  | ends (outcome : Except ε α)
  | reads (rest : μ → σ → Statements μ σ ω ε α)
  | writes (write : ω) (rest : Except ε σ → Statements μ σ ω ε α)
  | commits (rest : Statements μ σ ω ε α)
  | rolls (rest : Statements μ σ ω ε α)

namespace Statements
variable {μ σ ω ε α β : Type}

/-- What comes next is told how the first part came out. -/
def andThen (first : Statements μ σ ω ε α) (next : Except ε α → Statements μ σ ω ε β) : Statements μ σ ω ε β :=
  match first with
  | ends outcome => next outcome
  | reads rest => .reads fun moment store => (rest moment store).andThen next
  | writes write rest => .writes write fun wrote => (rest wrote).andThen next
  | commits rest => .commits (rest.andThen next)
  | rolls rest => .rolls (rest.andThen next)

instance : Monad (Statements μ σ ω ε) where
  pure value := .ends (.ok value)
  bind first next := first.andThen fun
    | .ok value => next value
    | .error raised => .ends (.error raised)

def raise (raised : ε) : Statements μ σ ω ε α := .ends (.error raised)

def raiseIf (wrong : Prop) [Decidable wrong] (raised : ε) : Statements μ σ ω ε Unit :=
  if wrong then raise raised else pure ()

def select (query : σ → α) : Statements μ σ ω ε α := .reads fun _ store => pure (query store)

def look (query : μ → α) : Statements μ σ ω ε α := .reads fun moment _ => pure (query moment)

def execute (write : ω) (tells : σ → α) : Statements μ σ ω ε α :=
  .writes write fun
    | .ok store => pure (tells store)
    | .error raised => raise raised

def transaction (body : Statements μ σ ω ε α) : Statements μ σ ω ε α :=
  body.andThen fun
    | .ok value => .commits (.ends (.ok value))
    | .error raised => .rolls (.ends (.error raised))

variable (apply : ω → σ → Except ε σ)

/-- The rest of a transaction that has the lock: `before` is what is committed so far. -/
def locked (moment : μ) (before : σ) : Statements μ σ ω ε α → σ → Statements μ σ ω ε α × σ
  | ends outcome, store => (ends outcome, store)
  | reads rest, store => (rest moment store).locked moment before store
  | writes write rest, store =>
    match apply write store with
    | .ok next => (rest (.ok next)).locked moment before next
    | .error raised => (rest (.error raised)).locked moment before store
  | commits rest, store => (rest, store)
  | rolls rest, _ => (rest, before)

def turn (moment : μ) (program : Statements μ σ ω ε α) (store : σ) : Statements μ σ ω ε α × σ :=
  match program with
  | ends outcome => (ends outcome, store)
  | reads rest => (rest moment store, store)
  | writes write rest => (writes write rest).locked apply moment store store
  | commits rest => (rest, store)
  | rolls rest => (rest, store)

section
variable (allows : ω → σ → Prop)

/-- Each write of this part of a transaction finds what it needs. -/
def Locked (moment : μ) : Statements μ σ ω ε α → σ → Prop
  | ends _, _ => True
  | reads rest, store => (rest moment store).Locked moment store
  | writes write rest, store => allows write store ∧ match apply write store with
    | .ok next => (rest (.ok next)).Locked moment next
    | .error raised => (rest (.error raised)).Locked moment store
  | commits _, _ => True
  | rolls _, _ => True

/-- Each write of the next turn finds what it needs. -/
def Lands (moment : μ) (program : Statements μ σ ω ε α) (store : σ) : Prop :=
  match program with
  | writes write rest => (writes write rest).Locked apply allows moment store
  | _ => True

variable {apply allows} {J : σ → Prop} {moment : μ}

section
variable (kept : ∀ write store next, J store → allows write store → apply write store = .ok next → J next)
include kept

theorem locked_keeps (program : Statements μ σ ω ε α) {before store : σ} (earlier : J before) (holds : J store)
    (lands : program.Locked apply allows moment store) : J (program.locked apply moment before store).2 := by
  induction program generalizing store with
  | ends outcome => exact holds
  | reads rest ih => exact ih moment store holds lands
  | writes write rest ih =>
    unfold Locked at lands
    obtain ⟨allowed, later⟩ := lands
    unfold locked
    cases wrote : apply write store with
    | ok next =>
      rw [wrote] at later
      exact ih _ (kept write store next holds allowed wrote) later
    | error raised =>
      rw [wrote] at later
      exact ih _ holds later
  | commits rest ih => exact holds
  | rolls rest ih => exact earlier

theorem turn_keeps
    (program : Statements μ σ ω ε α) {store : σ} (holds : J store) (lands : program.Lands apply allows moment store) :
    J (program.turn apply moment store).2 := by
  cases program with
  | writes write rest => exact locked_keeps kept _ holds holds lands
  | ends outcome => exact holds
  | reads rest => exact holds
  | commits rest => exact holds
  | rolls rest => exact holds

end

end

variable (fits : μ → Prop) (allows : ω → σ → Prop)

/-- No other request writes meanwhile, and what is found outside `fits`: then each write finds
what it needs, and `Q` holds of the outcome, of what is committed and of the store. -/
def Calm : Statements μ σ ω ε α → (before store : σ) → (Except ε α → σ → σ → Prop) → Prop
  | ends outcome, before, store, Q => Q outcome before store
  | reads rest, before, store, Q => ∀ moment, fits moment → (rest moment store).Calm before store Q
  | writes write rest, before, store, Q => allows write store ∧ match apply write store with
    | .ok next => (rest (.ok next)).Calm before next Q
    | .error raised => (rest (.error raised)).Calm before store Q
  | commits rest, _, store, Q => rest.Calm store store Q
  | rolls rest, before, _, Q => rest.Calm before before Q

variable {apply fits allows} {before store : σ}

theorem calm_andThen (first : Statements μ σ ω ε α) (next : Except ε α → Statements μ σ ω ε β)
    {Q : Except ε β → σ → σ → Prop} :
    (first.andThen next).Calm apply fits allows before store Q ↔
      first.Calm apply fits allows before store fun outcome before store =>
        (next outcome).Calm apply fits allows before store Q := by
  induction first generalizing before store with
  | ends outcome => exact Iff.rfl
  | reads rest ih => exact forall_congr' fun moment => imp_congr_right fun _ => ih moment store
  | writes write rest ih =>
    unfold andThen Calm
    refine and_congr_right fun _ => ?_
    cases apply write store with
    | ok next => exact ih _
    | error raised => exact ih _
  | commits rest ih => exact ih
  | rolls rest ih => exact ih

variable {Q : Except ε α → σ → σ → Prop}

theorem calm_bind (first : Statements μ σ ω ε α) (next : α → Statements μ σ ω ε β) {Q : Except ε β → σ → σ → Prop} :
    (first >>= next).Calm apply fits allows before store Q ↔
      first.Calm apply fits allows before store fun outcome before store =>
        match outcome with
        | .ok value => (next value).Calm apply fits allows before store Q
        | .error raised => Q (.error raised) before store := by
  refine (calm_andThen first _).trans (iff_of_eq ?_)
  congr 1
  funext outcome before store
  cases outcome <;> rfl

@[simp] theorem calm_pure (value : α) :
    (pure value : Statements μ σ ω ε α).Calm apply fits allows before store Q ↔ Q (.ok value) before store := Iff.rfl

@[simp] theorem calm_raise (raised : ε) :
    (raise raised : Statements μ σ ω ε α).Calm apply fits allows before store Q ↔ Q (.error raised) before store := Iff.rfl

theorem calm_raiseIf (wrong : Prop) [Decidable wrong] (raised : ε) {Q : Except ε Unit → σ → σ → Prop} :
    (raiseIf wrong raised : Statements μ σ ω ε Unit).Calm apply fits allows before store Q ↔
      (wrong → Q (.error raised) before store) ∧ (¬wrong → Q (.ok ()) before store) := by
  unfold raiseIf
  by_cases holds : wrong
  · simp [holds]
  · simp [holds]

theorem calm_select (query : σ → α) : (select query : Statements μ σ ω ε α).Calm apply fits allows before store Q ↔
      ∀ moment, fits moment → Q (.ok (query store)) before store := Iff.rfl

theorem calm_look (query : μ → α) : (look query : Statements μ σ ω ε α).Calm apply fits allows before store Q ↔
      ∀ moment, fits moment → Q (.ok (query moment)) before store := Iff.rfl

theorem calm_execute (write : ω) (tells : σ → α) :
    (execute write tells : Statements μ σ ω ε α).Calm apply fits allows before store Q ↔ allows write store ∧
        match apply write store with
        | .ok next => Q (.ok (tells next)) before next
        | .error raised => Q (.error raised) before store := by
  unfold execute Calm
  refine and_congr_right fun _ => ?_
  cases apply write store <;> exact Iff.rfl

theorem calm_transaction (body : Statements μ σ ω ε α) : (transaction body).Calm apply fits allows before store Q ↔
      body.Calm apply fits allows before store fun outcome before store =>
        match outcome with
        | .ok value => Q (.ok value) store store
        | .error raised => Q (.error raised) before before := by
  refine (calm_andThen body _).trans (iff_of_eq ?_)
  congr 1
  funext outcome before store
  cases outcome <;> rfl

theorem Calm.imp {program : Statements μ σ ω ε α} {P Q : Except ε α → σ → σ → Prop}
    (calm : program.Calm apply fits allows before store P)
    (weaker : ∀ outcome before store, P outcome before store → Q outcome before store) :
    program.Calm apply fits allows before store Q := by
  induction program generalizing before store with
  | ends outcome => exact weaker _ _ _ calm
  | reads rest ih => exact fun moment fit => ih moment store (calm moment fit)
  | writes write rest ih =>
    unfold Calm at calm ⊢
    obtain ⟨allowed, later⟩ := calm
    refine ⟨allowed, ?_⟩
    cases wrote : apply write store with
    | ok next =>
      rw [wrote] at later
      exact ih _ later
    | error raised =>
      rw [wrote] at later
      exact ih _ later
  | commits rest ih => exact ih calm
  | rolls rest ih => exact ih calm

end Statements
