import Xkk.Auth.Account

/-! # Logging in at Auth

`AuthApi::login` around the account: the checks of the request and the two rate
limiters before it, and the token after it.  A client that goes away leaves its
call where it stands.
-/

namespace Xkk.Auth

open Xkk.Protocol

structure AuthLoginReq where
  account : String
  credential : String
  deviceId : Option String        -- `device`, of which only the id is read
deriving DecidableEq, Repr

structure AuthLoginRsp where
  status : Option Status
  account : String
  token : String
  roles : List Role
  createdAt : Int
deriving DecidableEq, Repr

def loginStatus (status : Status) : AuthLoginRsp := ⟨some status, "", "", [], 0⟩

def loginError (errorCode : Int) (message : String) : AuthLoginRsp :=
  loginStatus (errorStatus errorCode message)

/-- `xtoken::TokenCoder`: a token is good for the player and for the device that it
    was issued for.  The last argument of either function is the clock. -/
structure TokenCoder where
  simpleTokenEncode : Int → String → Int → Option String
  simpleTokenDecode : String → String → Int → Option Int
  bound : ∀ {gid decoded issued now : Int} {token deviceId other : String},
    simpleTokenEncode gid deviceId issued = some token → simpleTokenDecode token other now = some decoded →
    decoded = gid ∧ other = deviceId

/-- What the limiters answer; `none` is an error of Redis. -/
structure Allowance where
  global : Option Bool
  perIp : Option Bool
deriving DecidableEq, Repr

/-- From the permit to the limiters: an answer, or the device to go on with. -/
def admitLogin (permit : Bool) (request : AuthLoginReq) (allowance : Allowance) : Except AuthLoginRsp String :=
  if permit = false then .error (loginError Code.OVERLOADED "Auth request capacity exhausted")
  else match request.deviceId with
  | none => .error (loginError Code.INVALID_ARGUMENT "device is required")
  | some deviceId =>
    if request.account.isEmpty ∨ request.account.utf8ByteSize > 64 ∨ request.credential.isEmpty
        ∨ request.credential.utf8ByteSize > 256 ∨ deviceId.utf8ByteSize < 8 then
      .error (loginError Code.INVALID_ARGUMENT "invalid Auth login request")
    else match allowance.global, allowance.perIp with
      | some true, some true => .ok deviceId
      | some _, some _ => .error (loginError Code.RATE_LIMITED "login rate exceeded")
      | _, _ => .error (loginError Code.INTERNAL "login limiter failed")

inductive LoginPhase where
  | loading (call : Nat)           -- in `load_or_create_account`
  | saving (account : AccountData) (gid : Int) (token : String)
  | answered (response : AuthLoginRsp)
deriving DecidableEq, Repr

structure Login where
  account : String
  credential : String
  deviceId : String
  phase : LoginPhase
  issued : Option (Int × String)   -- the token that was made for it
deriving DecidableEq, Repr

namespace Login

/-- From the account to the token. -/
def issue (coder : TokenCoder) (login : Login) (now : Int) : Except Status AccountData → Login
  | .error status => { login with phase := .answered (loginStatus status) }
  | .ok account =>
    match account.roles.head? with
    | none => { login with phase := .answered (loginError Code.CONFLICT "account has no role") }
    | some role =>
      match coder.simpleTokenEncode role.gid login.deviceId now with
      | none => { login with phase := .answered (loginError Code.INTERNAL "token encode failed") }
      | some token => { login with phase := .saving account role.gid token, issued := some (role.gid, token) }

/-- After `set_token`. -/
def answer (login : Login) (account : AccountData) (token : String) (saved : Bool) : Login :=
  { login with
    phase := .answered (
      if saved then ⟨some okStatus, account.account, token, account.roles, account.createdAt⟩
      else loginError Code.INTERNAL "token save failed") }

/-- What the steps of a login leave as it is. -/
structure Later (old new : Login) : Prop where
  account : new.account = old.account
  credential : new.credential = old.credential
  deviceId : new.deviceId = old.deviceId
  issued : ∀ token, old.issued = some token → new.issued = some token

theorem Later.refl (login : Login) : Later login login := ⟨rfl, rfl, rfl, fun _ => id⟩

/-- Either the login is over, or it has a token for the first role of the account. -/
theorem issue_cases (coder : TokenCoder) (login : Login) (now : Int) (result : Except Status AccountData) :
    (∃ response, login.issue coder now result = { login with phase := .answered response })
    ∨ ∃ account gid token, result = .ok account ∧ account.roleGid = some gid
      ∧ coder.simpleTokenEncode gid login.deviceId now = some token
      ∧ login.issue coder now result =
        { login with phase := .saving account gid token, issued := some (gid, token) } := by
  cases result with
  | error status => exact .inl ⟨_, rfl⟩
  | ok account =>
    cases first : account.roles.head? with
    | none => exact .inl ⟨_, by simp only [issue, first]; rfl⟩
    | some role =>
      cases encoded : coder.simpleTokenEncode role.gid login.deviceId now with
      | none => exact .inl ⟨_, by simp only [issue, first, encoded]; rfl⟩
      | some token =>
        refine .inr ⟨account, role.gid, token, rfl, ?_, encoded, ?_⟩
        · simp [AccountData.roleGid, first]
        · simp [issue, first, encoded]

end Login

namespace Accounts

/-! ## What a call learns of the account

Every account that is stored, or that a call returns, was made by a load that
found nothing, of this account name and with the hash of its own credential.
-/

section

variable {credentialHash : String → String → String} {account : String} {s t : Accounts}

/-- The account that the call is about to store, or that it returns. -/
def known : CallPhase → Option AccountData
  | .saving a => some a
  | phase => phase.result

/-- The account that a load has made up. -/
def madeUp (t : Accounts) : Label → List AccountData
  | .load i _ _ _ => ((t.calls[i]?.map Call.phase).bind fun phase => match phase with
    | .saving a => some a
    | _ => none).toList
  | _ => []

structure Honest (credentialHash : String → String → String) (account : String) (registered : List AccountData)
    (s : Accounts) : Prop where
  stored : ∀ a, s.stored = some a → a ∈ registered ∧ a.account = account
  known : ∀ (i : Nat) c, s.calls[i]? = some c → ∀ a, known c.phase = some a →
    a ∈ registered ∧ a.account = account ∧ a.credentialHash = credentialHash account c.credential

variable {registered more : List AccountData}

theorem Honest.mono (honest : Honest credentialHash account registered s) (grows : ∀ a ∈ registered, a ∈ more) :
    Honest credentialHash account more s where
  stored a isStored := (honest.stored a isStored).imp_left (grows a)
  known i c found a isKnown := (honest.known i c found a isKnown).imp_left (grows a)

/-- A call moves on, and the document stays or is one that the call knew. -/
theorem Honest.with_call (honest : Honest credentialHash account registered s) {i : Nat} {c : Call}
    {phase : CallPhase} (calls : t.calls = s.calls.set i { c with phase := phase })
    (stored : ∀ a, t.stored = some a → s.stored = some a ∨ a ∈ registered ∧ a.account = account)
    (learns : ∀ a, Accounts.known phase = some a →
      a ∈ registered ∧ a.account = account ∧ a.credentialHash = credentialHash account c.credential) :
    Honest credentialHash account registered t where
  stored := by
    intro a isStored
    rcases stored a isStored with old | new
    · exact honest.stored a old
    · exact new
  known := by
    intro j d found a isKnown
    rw [calls] at found
    rcases Lib.Pool.get_set_cases found with ⟨_, rfl⟩ | ⟨_, there⟩
    · exact learns a isKnown
    · exact honest.known j d there a isKnown

theorem Honest.tryLock (honest : Honest credentialHash account registered s) {i : Nat} {c : Call}
    {answer : Answer} (taken : s.tryLock i c answer = some t) : Honest credentialHash account registered t := by
  unfold Accounts.tryLock at taken
  split at taken
  case h_1 =>
    cases answer with
    | ok =>
      dsimp only at taken
      split at taken <;> obtain rfl := Option.some.inj taken
      · exact honest.with_call rfl (fun _ => .inl) (by simp [Accounts.known, CallPhase.result])
      · exact honest.with_call rfl (fun _ => .inl) (by simp [Accounts.known, CallPhase.result])
    | failed applied =>
      obtain rfl := Option.some.inj taken
      exact honest.with_call rfl (fun _ => .inl) (by simp [Accounts.known, CallPhase.result])
  case h_2 => cases taken

/-- The document that was found has the hash of the credential, or a new one is
    made up with it. -/
theorem Honest.load (honest : Honest credentialHash account registered s) {i : Nat} {c : Call} {answer : Answer}
    {gid createdAt : Int} (found : s.calls[i]? = some c)
    (taken : s.load credentialHash account i c answer gid createdAt = some t) :
    Honest credentialHash account (registered ++ madeUp t (.load i answer gid createdAt)) t := by
  have grown : Honest credentialHash account (registered ++ madeUp t (.load i answer gid createdAt)) s :=
    honest.mono fun _ => List.mem_append_left _
  unfold Accounts.load at taken
  split at taken
  case h_1 =>
    cases answer with
    | ok =>
      dsimp only at taken
      split at taken
      case h_1 stored isStored =>
        split at taken <;> obtain rfl := Option.some.inj taken
        case isTrue matching =>
          refine grown.with_call rfl (fun _ => .inl) ?_
          intro a isKnown
          obtain rfl : stored = a := by simpa [Accounts.known, CallPhase.result] using isKnown
          have kept := grown.stored stored isStored
          exact ⟨kept.1, kept.2, matching⟩
        case isFalse => exact grown.with_call rfl (fun _ => .inl) (by simp [Accounts.known, CallPhase.result])
      case h_2 =>
        obtain rfl := Option.some.inj taken
        refine grown.with_call rfl (fun _ => .inl) ?_
        intro a isKnown
        obtain rfl : AccountData.create account (credentialHash account c.credential) gid createdAt = a := by
          simpa [Accounts.known] using isKnown
        refine ⟨List.mem_append_right _ ?_, rfl, rfl⟩
        simp [madeUp, setCall, Lib.Pool.lt_length found]
    | failed applied =>
      obtain rfl := Option.some.inj taken
      exact grown.with_call rfl (fun _ => .inl) (by simp [Accounts.known, CallPhase.result])
  case h_2 => cases taken

theorem Honest.save (honest : Honest credentialHash account registered s) {i : Nat} {c : Call} {answer : Answer}
    (found : s.calls[i]? = some c) (taken : s.save i c answer = some t) :
    Honest credentialHash account registered t := by
  unfold Accounts.save at taken
  split at taken
  case h_1 created saving =>
    have own := honest.known i c found created (by simp [saving, Accounts.known])
    cases answer with
    | ok =>
      obtain rfl := Option.some.inj taken
      apply honest.with_call rfl
      · intro a isStored
        obtain rfl : created = a := by simpa [Answer.applied] using isStored
        exact .inr ⟨own.1, own.2.1⟩
      · intro a isKnown
        obtain rfl : created = a := by simpa [Accounts.known, CallPhase.result] using isKnown
        exact own
    | failed applied =>
      obtain rfl := Option.some.inj taken
      apply honest.with_call rfl
      · intro a isStored
        cases applied with
        | true =>
          obtain rfl : created = a := by simpa [Answer.applied] using isStored
          exact .inr ⟨own.1, own.2.1⟩
        | false => exact .inl (by simpa [Answer.applied] using isStored)
      · simp [Accounts.known, CallPhase.result]
  case h_2 => cases taken

theorem Honest.release (honest : Honest credentialHash account registered s) {i : Nat} {c : Call}
    {answer : Answer} (found : s.calls[i]? = some c) (taken : s.release i c answer = some t) :
    Honest credentialHash account registered t := by
  unfold Accounts.release at taken
  split at taken
  case h_1 result releasing =>
    obtain rfl := Option.some.inj taken
    refine honest.with_call rfl (fun _ => .inl) ?_
    intro a isKnown
    apply honest.known i c found a
    rw [releasing]
    cases result with
    | error _ => simp [Accounts.known, CallPhase.result] at isKnown
    | ok _ => simpa [Accounts.known, CallPhase.result] using isKnown
  case h_2 => cases taken

theorem Honest.step (honest : Honest credentialHash account registered s) {l : Label}
    (taken : s.step credentialHash account l = some t) :
    Honest credentialHash account (registered ++ madeUp t l) t := by
  have grow : ∀ {t : Accounts}, Honest credentialHash account registered t →
      Honest credentialHash account (registered ++ madeUp t l) t :=
    fun honest => honest.mono fun _ => List.mem_append_left _
  cases l with
  | call credential =>
    obtain rfl := Option.some.inj taken
    apply grow
    refine ⟨honest.stored, ?_⟩
    intro i c found a isKnown
    rcases Lib.Pool.get_append_cases found with ⟨_, rfl⟩ | ⟨_, there⟩
    · simp [Accounts.known, CallPhase.result] at isKnown
    · exact honest.known i c there a isKnown
  | tryLock i answer =>
    obtain ⟨c, _, taken⟩ := Option.bind_eq_some_iff.mp taken
    exact grow (honest.tryLock taken)
  | load i answer gid createdAt =>
    obtain ⟨c, found, taken⟩ := Option.bind_eq_some_iff.mp taken
    exact honest.load found taken
  | save i answer =>
    obtain ⟨c, found, taken⟩ := Option.bind_eq_some_iff.mp taken
    exact grow (honest.save found taken)
  | release i answer =>
    obtain ⟨c, found, taken⟩ := Option.bind_eq_some_iff.mp taken
    exact grow (honest.release found taken)
  | expire =>
    simp only [Accounts.step, Option.ite_none_left_eq_some, Option.some.injEq] at taken
    obtain ⟨_, rfl⟩ := taken
    exact grow ⟨honest.stored, honest.known⟩

/-- A call keeps its credential. -/
theorem credential_step {l : Label} (taken : s.step credentialHash account l = some t) {i : Nat} {c : Call}
    (found : s.calls[i]? = some c) : ∃ d, t.calls[i]? = some d ∧ d.credential = c.credential := by
  obtain ⟨credential, rfl⟩ | ⟨rfl, _, rfl⟩ | ⟨j, d, phase, there, calls, _⟩ := step_cases taken
  · exact ⟨c, Lib.Pool.get_append_of_some _ found, rfl⟩
  · exact ⟨c, found, rfl⟩
  · rw [calls]
    by_cases same : j = i
    · subst same
      obtain rfl := Option.some.inj (there.symm.trans found)
      exact ⟨_, Lib.Pool.get_set_self _ found, rfl⟩
    · exact ⟨c, by rwa [Lib.Pool.get_set_ne _ same], rfl⟩

end

/-- What a load makes up has the player id that was generated for it. -/
theorem madeUp_roleGid {credentialHash : String → String → String} {account : String} {s t : Accounts}
    {l : Label}
    (taken : s.step credentialHash account l = some t) {a : AccountData} (made : a ∈ madeUp t l) :
    ∃ i answer gid createdAt, l = .load i answer gid createdAt ∧ a.roleGid = some gid ∧ madeUp t l = [a] := by
  cases l with
  | load i answer gid createdAt =>
    refine ⟨i, answer, gid, createdAt, rfl, ?_⟩
    obtain ⟨c, found, taken⟩ := Option.bind_eq_some_iff.mp taken
    unfold Accounts.load at taken
    split at taken
    case h_2 => cases taken
    case h_1 loading =>
      cases answer with
      | ok =>
        dsimp only at taken
        split at taken
        case h_1 =>
          split at taken <;> obtain rfl := Option.some.inj taken <;>
            simp [madeUp, setCall, Lib.Pool.lt_length found] at made
        case h_2 =>
          obtain rfl := Option.some.inj taken
          have only : ∀ created,
              madeUp (s.setCall i c (.saving created)) (.load i .ok gid createdAt) = [created] := by
            simp [madeUp, setCall, Lib.Pool.lt_length found]
          rw [only] at made ⊢
          obtain rfl := List.mem_singleton.mp made
          exact ⟨rfl, rfl⟩
      | failed applied =>
        obtain rfl := Option.some.inj taken
        simp [madeUp, setCall, Lib.Pool.lt_length found] at made
  | call credential => cases made
  | tryLock i answer => cases made
  | save i answer => cases made
  | release i answer => cases made
  | expire => cases made

end Accounts

end Xkk.Auth
