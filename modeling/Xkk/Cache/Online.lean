import Mathlib.Algebra.Group.Int.Defs
import Mathlib.Algebra.Group.Nat.Defs
import Mathlib.Data.Nat.Size
import Mathlib.Logic.Function.Basic

/-! # The online record of a player

The hash `gamer:{gid}` in Redis, and the commands that the services run on it.
Each of them is one atomic step.  A field is absent until a command has set it;
integers are kept as such, since every writer formats them itself.
-/

namespace Xkk.Cache

structure OnlineData where
  account : String
  gid : Int
  token : String
  session : Int
  loginTime : Int
  logoutTime : Int
  publicId : Int
  gateId : Int
  logicId : Int
deriving DecidableEq, Repr

structure GamerHash where
  acc : Option String
  gid : Option Int
  token : Option String
  sess : Option Int
  lgin : Option Int
  lgou : Option Int
  psid : Option Int
  gsid : Option Int
  lsid : Option Int
deriving DecidableEq, Repr

def GamerHash.absent : GamerHash := ⟨none, none, none, none, none, none, none, none, none⟩

/-- The hash of every gid. -/
abbrev Redis := Int → GamerHash

inductive OnlineError where
  | redis
  | invalidField (field value : String)
  | invalidGid
deriving DecidableEq, Repr

def loadOnline (redis : Redis) (gid : Int) : Except OnlineError (Option OnlineData) :=
  if gid ≤ 0 then .error .invalidGid
  else if redis gid = .absent then .ok none
  else
    let fields := redis gid
    .ok (some
      { account := fields.acc.getD ""
        gid := fields.gid.getD gid
        token := fields.token.getD ""
        session := fields.sess.getD 0
        loginTime := fields.lgin.getD 0
        logoutTime := fields.lgou.getD 0
        publicId := fields.psid.getD 0
        gateId := fields.gsid.getD 0
        logicId := fields.lsid.getD 0 })

def saveOnline (redis : Redis) (data : OnlineData) : Except OnlineError Redis :=
  if data.gid ≤ 0 then .error .invalidGid
  else
    .ok (Function.update redis data.gid
      { acc := some data.account
        gid := some data.gid
        token := some data.token
        sess := some data.session
        lgin := some data.loginTime
        lgou := some data.logoutTime
        psid := some data.publicId
        gsid := some data.gateId
        lsid := some data.logicId })

def setToken (redis : Redis) (gid : Int) (account token : String) : Except OnlineError Redis :=
  if gid ≤ 0 then .error .invalidGid
  else
    .ok (Function.update redis gid
      { redis gid with acc := some account, gid := some gid, token := some token })

def setLogicOwner (redis : Redis) (gid logicId : Int) : Except OnlineError Redis :=
  if gid ≤ 0 then .error .invalidGid
  else .ok (Function.update redis gid { redis gid with lsid := some logicId })

/-- The nearest number with a significand of 53 bits, ties to even. -/
def luaRound (n : Nat) : Nat :=
  let unit := 2 ^ (n.size - 53)
  let rest := n % unit
  let floor := n / unit
  if 2 * rest > unit ∨ 2 * rest = unit ∧ floor % 2 = 1 then (floor + 1) * unit else floor * unit

/-- `tonumber` of a formatted integer: the numbers of a script are doubles. -/
def tonumber (n : Int) : Int := n.sign * luaRound n.natAbs

theorem luaRound_le (n : Nat) :
    n / 2 ^ (n.size - 53) * 2 ^ (n.size - 53) ≤ luaRound n
      ∧ luaRound n ≤ (n / 2 ^ (n.size - 53) + 1) * 2 ^ (n.size - 53) := by
  have less := Nat.mul_le_mul_right (2 ^ (n.size - 53)) (Nat.le_succ (n / 2 ^ (n.size - 53)))
  simp only [luaRound]
  split
  · exact ⟨less, Nat.le_refl _⟩
  · exact ⟨Nat.le_refl _, less⟩

/-- A power of two above `n` is above its rounding as well. -/
theorem luaRound_le_pow (n : Nat) : luaRound n ≤ 2 ^ n.size := by
  have whole : 2 ^ n.size = 2 ^ (n.size - (n.size - 53)) * 2 ^ (n.size - 53) := by
    rw [← Nat.pow_add]
    congr 1
    omega
  have small : n / 2 ^ (n.size - 53) < 2 ^ (n.size - (n.size - 53)) := by
    rw [Nat.div_lt_iff_lt_mul (Nat.two_pow_pos _), ← whole]
    exact Nat.lt_size_self n
  calc luaRound n
      ≤ (n / 2 ^ (n.size - 53) + 1) * 2 ^ (n.size - 53) := (luaRound_le n).2
    _ ≤ 2 ^ (n.size - (n.size - 53)) * 2 ^ (n.size - 53) := Nat.mul_le_mul_right _ small
    _ = 2 ^ n.size := whole.symm

theorem pow_le_luaRound {n k : Nat} (larger : 2 ^ k ≤ n) (fine : n.size - 53 ≤ k) :
    2 ^ k ≤ luaRound n := by
  have whole : 2 ^ k = 2 ^ (k - (n.size - 53)) * 2 ^ (n.size - 53) := by
    rw [← Nat.pow_add]
    congr 1
    omega
  have floor : 2 ^ (k - (n.size - 53)) ≤ n / 2 ^ (n.size - 53) := by
    rw [Nat.le_div_iff_mul_le (Nat.two_pow_pos _), ← whole]
    exact larger
  calc 2 ^ k
      = 2 ^ (k - (n.size - 53)) * 2 ^ (n.size - 53) := whole
    _ ≤ n / 2 ^ (n.size - 53) * 2 ^ (n.size - 53) := Nat.mul_le_mul_right _ floor
    _ ≤ luaRound n := (luaRound_le n).1

theorem luaRound_mono {m n : Nat} (ordered : m ≤ n) : luaRound m ≤ luaRound n := by
  by_cases same : m.size = n.size
  · have floors : m / 2 ^ (n.size - 53) ≤ n / 2 ^ (n.size - 53) := Nat.div_le_div_right ordered
    by_cases equal : m / 2 ^ (n.size - 53) = n / 2 ^ (n.size - 53)
    · -- the same floor: the rests decide
      have wholeM := Nat.div_add_mod m (2 ^ (n.size - 53))
      have wholeN := Nat.div_add_mod n (2 ^ (n.size - 53))
      rw [equal] at wholeM
      have less := Nat.mul_le_mul_right (2 ^ (n.size - 53)) (Nat.le_succ (n / 2 ^ (n.size - 53)))
      simp only [luaRound, same, equal]
      split <;> split <;> omega
    · have up := (luaRound_le m).2
      have down := (luaRound_le n).1
      rw [same] at up
      have step : m / 2 ^ (n.size - 53) + 1 ≤ n / 2 ^ (n.size - 53) := by omega
      exact Nat.le_trans up (Nat.le_trans (Nat.mul_le_mul_right _ step) down)
  · have sizes := Nat.size_le_size ordered
    have lower : 2 ^ (n.size - 1) ≤ luaRound n :=
      pow_le_luaRound (Nat.lt_size.mp (by omega)) (by omega)
    have powers : 2 ^ m.size ≤ 2 ^ (n.size - 1) := Nat.pow_le_pow_right (by omega) (by omega)
    exact Nat.le_trans (luaRound_le_pow m) (Nat.le_trans powers lower)

theorem tonumber_natCast (n : Nat) : tonumber n = luaRound n := by
  cases n with
  | zero => rfl
  | succ n =>
    simp only [tonumber, Int.natAbs_natCast, Int.sign_natCast_of_ne_zero (Nat.succ_ne_zero n), Int.one_mul]

theorem tonumber_neg (n : Int) : tonumber (-n) = -tonumber n := by
  simp only [tonumber, Int.sign_neg, Int.natAbs_neg, Int.neg_mul]

/-- Rounding keeps the order, but not the strict order. -/
theorem tonumber_mono {m n : Int} (ordered : m ≤ n) : tonumber m ≤ tonumber n := by
  obtain ⟨j, rfl | rfl⟩ := m.eq_nat_or_neg <;> obtain ⟨k, rfl | rfl⟩ := n.eq_nat_or_neg <;>
    simp only [tonumber_neg, tonumber_natCast]
  · exact Int.ofNat_le.mpr (luaRound_mono (by omega))
  · obtain rfl : j = 0 := by omega
    obtain rfl : k = 0 := by omega
    exact Int.le_refl _
  · omega
  · have rounded := luaRound_mono (m := k) (n := j) (by omega)
    omega

/-- Whole numbers of at most 53 bits are doubles. -/
theorem luaRound_of_lt {n : Nat} (small : n < 2 ^ 53) : luaRound n = n := by
  have bits : n.size - 53 = 0 := by
    have bound := Nat.size_le.mpr small
    omega
  simp only [luaRound, bits, Nat.pow_zero, Nat.mod_one, Nat.div_one, Nat.mul_one]
  rw [if_neg (by omega)]

theorem tonumber_of_lt {n : Int} (small : n.natAbs < 2 ^ 53) : tonumber n = n := by
  rw [tonumber, luaRound_of_lt small]
  exact Int.sign_mul_natAbs n

/-- A number of more than 53 bits is not rounded below them. -/
theorem le_tonumber {n : Int} (large : 2 ^ 53 ≤ n) : 2 ^ 53 ≤ tonumber n := by
  have size : (2 ^ 53 : Nat).size = 54 := Nat.size_pow
  have edge : (2 ^ 53 : Nat) ≤ luaRound (2 ^ 53) := pow_le_luaRound (Nat.le_refl _) (by omega)
  calc (2 ^ 53 : Int)
      ≤ (luaRound (2 ^ 53) : Int) := by exact_mod_cast edge
    _ = tonumber ((2 ^ 53 : Nat) : Int) := (tonumber_natCast _).symm
    _ ≤ tonumber n := tonumber_mono (by exact_mod_cast large)

/-- No other number is rounded to one of at most 53 bits. -/
theorem tonumber_inj {m n : Int} (small : m.natAbs < 2 ^ 53) : tonumber m = tonumber n ↔ m = n := by
  refine ⟨fun same => ?_, fun same => congrArg tonumber same⟩
  rw [tonumber_of_lt small] at same
  by_cases fits : n.natAbs < 2 ^ 53
  · rwa [tonumber_of_lt fits] at same
  · -- beyond the range of `m` on one of the two sides
    exfalso
    rcases Int.le_total 0 n with positive | negative
    · have above := le_tonumber (n := n) (by omega)
      omega
    · have below := le_tonumber (n := -n) (by omega)
      rw [tonumber_neg] at below
      omega

def clearGateBySession (redis : Redis) (gid session logoutTime : Int) : Redis × Bool :=
  if (redis gid).sess.any (tonumber · = tonumber session) then
    (Function.update redis gid
      { redis gid with gsid := some 0, sess := some 0, lgou := some logoutTime }, true)
  else (redis, false)

/-! ## Which sessions a clear takes for its own -/

theorem clearGateBySession_changes {redis : Redis} {gid stored : Int}
    (recorded : (redis gid).sess = some stored) (positive : 0 < stored) (session logoutTime : Int) :
    (clearGateBySession redis gid session logoutTime).1 gid ≠ redis gid
      ↔ tonumber stored = tonumber session := by
  simp only [clearGateBySession, recorded, Option.any_some, decide_eq_true_eq]
  by_cases current : tonumber stored = tonumber session
  · -- the session of the record becomes zero
    rw [if_pos current]
    refine ⟨fun _ => current, fun _ same => ?_⟩
    have zero := congrArg GamerHash.sess same
    simp only [Function.update_self, recorded, Option.some.injEq] at zero
    omega
  · rw [if_neg current]
    exact ⟨fun changed => absurd rfl changed, fun same => absurd same current⟩

/-- The compare condition of the clear is the session itself, except for two
sessions with one nearest double; both of these have more than 53 bits. -/
theorem clearGateBySession_compares {redis : Redis} {gid stored session : Int}
    (recorded : (redis gid).sess = some stored) (positive : 0 < stored) (asked : 0 < session)
    (logoutTime : Int) :
    (((clearGateBySession redis gid session logoutTime).1 gid ≠ redis gid ↔ stored = session)
        ↔ (stored = session ∨ tonumber stored ≠ tonumber session))
      ∧ (stored < 2 ^ 53 ∨ session < 2 ^ 53 → stored = session ∨ tonumber stored ≠ tonumber session) := by
  rw [clearGateBySession_changes recorded positive]
  constructor
  · by_cases same : stored = session
    · simp [same]
    · simp [same]
  · intro small
    by_cases same : tonumber stored = tonumber session
    · left
      rcases small with small | small
      · exact (tonumber_inj (by omega)).mp same
      · exact ((tonumber_inj (by omega)).mp same.symm).symm
    · exact Or.inr same

theorem clearGateBySession_compares_small :
    ((clearGateBySession (fun _ => { GamerHash.absent with sess := some 8 }) 7 9 100).1 7
        ≠ { GamerHash.absent with sess := some 8 } ↔ (8 : Int) = 9) := by
  have compares := @clearGateBySession_compares (fun _ => { GamerHash.absent with sess := some 8 }) 7 8 9
    rfl (by decide) (by decide) 100
  exact compares.1.mpr (compares.2 (Or.inl (by decide)))

/-- The clear of session `2 ^ 53` takes the route of session `2 ^ 53 + 1`. -/
theorem clear_of_neighbour :
    (clearGateBySession (fun _ => { GamerHash.absent with sess := some (2 ^ 53 + 1) }) 7 (2 ^ 53) 100).1 7
        ≠ { GamerHash.absent with sess := some (2 ^ 53 + 1) }
      ∧ (2 ^ 53 + 1 : Int) ≠ 2 ^ 53 := by
  constructor
  · decide +kernel
  · decide

/-! ## What each command does to the record -/

variable {redis after : Redis} {gid : Int}

theorem loadOnline_ok {data : OnlineData} (loaded : loadOnline redis gid = .ok (some data)) :
    data.token = (redis gid).token.getD "" ∧ data.logicId = (redis gid).lsid.getD 0 := by
  unfold loadOnline at loaded
  by_cases invalid : gid ≤ 0
  · rw [if_pos invalid] at loaded
    cases loaded
  · rw [if_neg invalid] at loaded
    by_cases absent : redis gid = .absent
    · rw [if_pos absent] at loaded
      cases loaded
    · rw [if_neg absent] at loaded
      cases loaded
      exact ⟨rfl, rfl⟩

theorem saveOnline_ok {data : OnlineData} (saved : saveOnline redis data = .ok after) :
    after = Function.update redis data.gid
      ⟨some data.account, some data.gid, some data.token, some data.session, some data.loginTime,
        some data.logoutTime, some data.publicId, some data.gateId, some data.logicId⟩ := by
  unfold saveOnline at saved
  by_cases invalid : data.gid ≤ 0
  · rw [if_pos invalid] at saved
    cases saved
  · rw [if_neg invalid] at saved
    cases saved
    rfl

theorem setToken_ok {account token : String} (set : setToken redis gid account token = .ok after) :
    after = Function.update redis gid
      { redis gid with acc := some account, gid := some gid, token := some token } := by
  unfold setToken at set
  by_cases invalid : gid ≤ 0
  · rw [if_pos invalid] at set
    cases set
  · rw [if_neg invalid] at set
    cases set
    rfl

theorem setLogicOwner_ok {logicId : Int} (set : setLogicOwner redis gid logicId = .ok after) :
    after = Function.update redis gid { redis gid with lsid := some logicId } := by
  unfold setLogicOwner at set
  by_cases invalid : gid ≤ 0
  · rw [if_pos invalid] at set
    cases set
  · rw [if_neg invalid] at set
    cases set
    rfl

/-- A clear leaves the token and the owner alone. -/
theorem clearGateBySession_keeps (redis : Redis) (target session logoutTime gid : Int) :
    ((clearGateBySession redis target session logoutTime).1 gid).token = (redis gid).token
      ∧ ((clearGateBySession redis target session logoutTime).1 gid).lsid = (redis gid).lsid := by
  unfold clearGateBySession
  by_cases current : (redis target).sess.any (tonumber · = tonumber session) = true
  · rw [if_pos current]
    by_cases same : gid = target
    · rw [same]
      simp
    · simp [same]
  · rw [if_neg current]
    exact ⟨rfl, rfl⟩

/-! ## Tokens -/

theorem loadOnline_token {data : OnlineData} (loaded : loadOnline redis gid = .ok (some data)) :
    data.token = (redis gid).token.getD "" :=
  (loadOnline_ok loaded).1

theorem saveOnline_token {data : OnlineData} (saved : saveOnline redis data = .ok after) (gid : Int) :
    (after gid).token = if gid = data.gid then some data.token else (redis gid).token := by
  rw [saveOnline_ok saved]
  by_cases same : gid = data.gid
  · rw [if_pos same, same, Function.update_self]
  · rw [if_neg same, Function.update_of_ne same]

theorem setToken_token {target : Int} {account token : String}
    (set : setToken redis target account token = .ok after) (gid : Int) :
    (after gid).token = if gid = target then some token else (redis gid).token := by
  rw [setToken_ok set]
  by_cases same : gid = target
  · rw [if_pos same, same, Function.update_self]
  · rw [if_neg same, Function.update_of_ne same]

theorem setLogicOwner_token {target logicId : Int} (set : setLogicOwner redis target logicId = .ok after)
    (gid : Int) : (after gid).token = (redis gid).token := by
  rw [setLogicOwner_ok set]
  by_cases same : gid = target
  · rw [same, Function.update_self]
  · rw [Function.update_of_ne same]

theorem clearGateBySession_token (redis : Redis) (target session logoutTime gid : Int) :
    ((clearGateBySession redis target session logoutTime).1 gid).token = (redis gid).token :=
  (clearGateBySession_keeps redis target session logoutTime gid).1

end Xkk.Cache
