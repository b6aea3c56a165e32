import Mathlib

/-!
Status codes, the handle record and the per-kind counters of the rclc executor
(`executor_handle.h`, `executor_handle.c`). Pointers are addresses, `0` is `NULL`;
`size_t` is 64 bits wide, so a `size_t` counter is a natural number below `2 ^ 64`
and its `++`/`--` wrap around.
-/

namespace RclcExecutor

/-- An address; `0` is `NULL`. -/
abbrev Ptr := Nat

/-- `rcl_ret_t`. -/
abbrev RclRet := Int

def rclRetOk : RclRet := 0
def rclRetError : RclRet := 1
def rclRetTimeout : RclRet := 2
def rclRetBadAlloc : RclRet := 10
def rclRetInvalidArgument : RclRet := 11
def rclRetSubscriptionTakeFailed : RclRet := 401
def rclRetClientTakeFailed : RclRet := 501
def rclRetServiceTakeFailed : RclRet := 601
def rclRetTimerCanceled : RclRet := 801
def rclRetWaitSetInvalid : RclRet := 900
def rclRetActionGoalAccepted : RclRet := 2100

/-- The codes `executor.c` compares a middleware status with. -/
def testedCodes : List RclRet :=
  [rclRetOk, rclRetSubscriptionTakeFailed, rclRetClientTakeFailed, rclRetServiceTakeFailed,
    rclRetTimerCanceled]

/-- The status of a failed middleware call. rcl documents, for every call the executor
makes, which codes it returns: a take reports only its own `*_TAKE_FAILED` code besides
plain errors, and no call reports another call's benign code. So a failure is any code
that is not one of `testedCodes`; the benign codes come in through `Reply.benign`. -/
def RclError := { code : RclRet // code ∉ testedCodes }

instance : DecidableEq RclError :=
  inferInstanceAs (DecidableEq { code : RclRet // code ∉ testedCodes })

def RclError.error : RclError := ⟨rclRetError, by decide⟩

def RclError.waitSetInvalid : RclError := ⟨rclRetWaitSetInvalid, by decide⟩

/-- What a middleware call without a benign failure returns. -/
inductive MwRet
  | ok
  | error (e : RclError)
  deriving DecidableEq

def MwRet.code : MwRet → RclRet
  | .ok => rclRetOk
  | .error e => e.1

/-- What a take or a timer call returns: data, its own benign code
(`RCL_RET_*_TAKE_FAILED`, `RCL_RET_TIMER_CANCELED`), or an error. -/
inductive Reply (α : Type)
  | ok (a : α)
  | benign
  | error (e : RclError)
  deriving DecidableEq

/-- The status code of a reply, given the call's benign code. -/
def Reply.code {α : Type} (benignCode : RclRet) : Reply α → RclRet
  | .ok _ => rclRetOk
  | .benign => benignCode
  | .error e => e.1

@[simp] theorem MwRet.code_eq_ok {r : MwRet} : r.code = rclRetOk ↔ r = .ok := by
  cases r with
  | ok => simp [MwRet.code]
  | error e =>
      simp only [MwRet.code, reduceCtorEq, iff_false]
      exact fun h => e.2 (h ▸ List.mem_cons_self _ _)

theorem rclRetError_ne_ok : rclRetError ≠ rclRetOk := by decide

theorem rclRetInvalidArgument_ne_ok : rclRetInvalidArgument ≠ rclRetOk := by decide

theorem RclError.ne {e : RclError} {c : RclRet} (hc : c ∈ testedCodes) : e.1 ≠ c :=
  fun h => e.2 (h ▸ hc)

/-! ### `size_t` arithmetic -/

/-- `x + y` on `size_t`. -/
def sizeAdd (x y : Nat) : Nat := (x + y) % 2 ^ 64

/-- `x - y` on `size_t`. -/
def sizeSub (x y : Nat) : Nat := (x + (2 ^ 64 - y % 2 ^ 64)) % 2 ^ 64

theorem sizeAdd_lt (x y : Nat) : sizeAdd x y < 2 ^ 64 := Nat.mod_lt _ (Nat.two_pow_pos 64)

theorem sizeSub_lt (x y : Nat) : sizeSub x y < 2 ^ 64 := Nat.mod_lt _ (Nat.two_pow_pos 64)

theorem sizeSub_sizeAdd {x : Nat} (hx : x < 2 ^ 64) (y : Nat) :
    sizeSub (sizeAdd x y) y = x := by
  unfold sizeSub sizeAdd; omega

/-! ### Handles -/

/-- `rclc_executor_handle_type_t`. -/
inductive HandleType
  | subscription | subscriptionWithContext | timer | client | clientWithRequestId
  | service | serviceWithRequestId | serviceWithContext | actionClient | actionServer
  | guardCondition | none
  deriving DecidableEq, Repr

/-- `rclc_executor_handle_invocation_t`. -/
inductive HandleInvocation
  | onNewData | always
  deriving DecidableEq, Repr

/-- `rclc_executor_handle_t`. The two unions of the C record are one field each:
`endpoint` holds whichever of `subscription`, `timer`, ..., `action_server` is set,
`callback` whichever callback pointer is. `reqId` is the sequence number of `req_id`. -/
structure Handle where
  type : HandleType
  invocation : HandleInvocation
  endpoint : Ptr
  data : Ptr
  reqId : Nat
  dataResponseMsg : Ptr
  callbackContext : Ptr
  callback : Ptr
  index : Nat
  initialized : Bool
  dataAvailable : Bool
  deriving DecidableEq, Repr

/-- `rclc_executor_handle_init`: every field except `req_id` is reset. -/
def rclcExecutorHandleInit (h : Handle) (maxHandles : Nat) : Handle :=
  { h with
    type := .none, invocation := .onNewData, endpoint := 0, data := 0, dataResponseMsg := 0,
    callbackContext := 0, callback := 0, index := maxHandles, initialized := false,
    dataAvailable := false }

@[simp] theorem rclcExecutorHandleInit_idem (h : Handle) (n m : Nat) :
    rclcExecutorHandleInit (rclcExecutorHandleInit h n) m = rclcExecutorHandleInit h m := rfl

@[simp] theorem rclcExecutorHandleInit_type (h : Handle) (n : Nat) :
    (rclcExecutorHandleInit h n).type = .none := rfl

@[simp] theorem rclcExecutorHandleInit_initialized (h : Handle) (n : Nat) :
    (rclcExecutorHandleInit h n).initialized = false := rfl

@[simp] theorem rclcExecutorHandleInit_dataAvailable (h : Handle) (n : Nat) :
    (rclcExecutorHandleInit h n).dataAvailable = false := rfl

@[simp] theorem rclcExecutorHandleInit_index (h : Handle) (n : Nat) :
    (rclcExecutorHandleInit h n).index = n := rfl

/-- `rclc_executor_handle_get_ptr`: the endpoint for the five kinds that can be removed,
`NULL` for action clients and servers and for unused slots. -/
def rclcExecutorHandleGetPtr (h : Handle) : Ptr :=
  match h.type with
  | .subscription | .subscriptionWithContext | .timer | .client | .clientWithRequestId
  | .service | .serviceWithRequestId | .serviceWithContext | .guardCondition => h.endpoint
  | .actionClient | .actionServer | .none => 0

@[simp] theorem rclcExecutorHandleGetPtr_handleInit (h : Handle) (n : Nat) :
    rclcExecutorHandleGetPtr (rclcExecutorHandleInit h n) = 0 := rfl

/-- `rclc_executor_handle_counters_t`. -/
structure HandleCounters where
  numberOfSubscriptions : Nat
  numberOfTimers : Nat
  numberOfClients : Nat
  numberOfServices : Nat
  numberOfActionClients : Nat
  numberOfActionServers : Nat
  numberOfGuardConditions : Nat
  numberOfEvents : Nat
  deriving DecidableEq, Repr

/-- `rclc_executor_handle_counters_zero_init`. -/
def rclcExecutorHandleCountersZeroInit : HandleCounters := ⟨0, 0, 0, 0, 0, 0, 0, 0⟩

/-- The counters that registration changes. -/
inductive Counter
  | subscriptions | timers | clients | services | actionClients | actionServers
  | guardConditions
  deriving DecidableEq, Repr

def HandleCounters.get (info : HandleCounters) : Counter → Nat
  | .subscriptions => info.numberOfSubscriptions
  | .timers => info.numberOfTimers
  | .clients => info.numberOfClients
  | .services => info.numberOfServices
  | .actionClients => info.numberOfActionClients
  | .actionServers => info.numberOfActionServers
  | .guardConditions => info.numberOfGuardConditions

def HandleCounters.set (info : HandleCounters) : Counter → Nat → HandleCounters
  | .subscriptions, v => { info with numberOfSubscriptions := v }
  | .timers, v => { info with numberOfTimers := v }
  | .clients, v => { info with numberOfClients := v }
  | .services, v => { info with numberOfServices := v }
  | .actionClients, v => { info with numberOfActionClients := v }
  | .actionServers, v => { info with numberOfActionServers := v }
  | .guardConditions, v => { info with numberOfGuardConditions := v }

/-- `info.number_of_X += n` on `size_t`. -/
def HandleCounters.add (info : HandleCounters) (c : Counter) (n : Nat) : HandleCounters :=
  info.set c (sizeAdd (info.get c) n)

/-- `info.number_of_X -= n` on `size_t`. -/
def HandleCounters.sub (info : HandleCounters) (c : Counter) (n : Nat) : HandleCounters :=
  info.set c (sizeSub (info.get c) n)

@[simp] theorem HandleCounters.get_set (info : HandleCounters) (c d : Counter) (v : Nat) :
    (info.set c v).get d = if d = c then v else info.get d := by
  cases c <;> cases d <;> rfl

@[simp] theorem HandleCounters.set_get (info : HandleCounters) (c : Counter) :
    info.set c (info.get c) = info := by
  cases c <;> rfl

@[simp] theorem HandleCounters.set_set (info : HandleCounters) (c : Counter) (v w : Nat) :
    (info.set c v).set c w = info.set c w := by
  cases c <;> rfl

theorem HandleCounters.sub_add {info : HandleCounters} {c : Counter} (h : info.get c < 2 ^ 64)
    (n : Nat) : (info.add c n).sub c n = info := by
  simp [HandleCounters.sub, HandleCounters.add, sizeSub_sizeAdd h]

/-- The counter a handle of this type is counted in. -/
def HandleType.counter : HandleType → Option Counter
  | .subscription | .subscriptionWithContext => some .subscriptions
  | .timer => some .timers
  | .client | .clientWithRequestId => some .clients
  | .service | .serviceWithRequestId | .serviceWithContext => some .services
  | .actionClient => some .actionClients
  | .actionServer => some .actionServers
  | .guardCondition => some .guardConditions
  | .none => Option.none

end RclcExecutor
