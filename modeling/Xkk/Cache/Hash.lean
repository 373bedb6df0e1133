import Mathlib.Data.List.Induction
import Xkk.Cache.Online
import Xkk.Lib.Decimal
import Xkk.Lib.Table

/-! # The hash behind an online record

`OnlineData` is kept in Redis as a hash of texts, under nine field names that
five functions spell out for themselves.  The functions are modelled here on the
texts.  They are shown to keep the hash of texts in step with the typed hash of
`Xkk.Cache.Online`, and this one in step with the record that the commands
describe.  Keys do not expire here.
-/

namespace Xkk.Cache.Hash

open Xkk.Lib

/-- A hash; the key of an empty one is missing. -/
abbrev Fields := Table.Map String String

abbrev Store := String → Fields

def onlineKey (gid : Int) : String := "gamer:" ++ toString gid

/-- `HSET`. -/
def hset (fields : Fields) (pairs : List (String × String)) : Fields :=
  pairs.foldl (fun fields pair => fields.insert pair.1 pair.2) fields

def parseInteger (width : Nat) (fields : Fields) (field : String) (default : Int) : Except OnlineError Int :=
  match fields.lookup field with
  | none => .ok default
  | some value =>
    match Decimal.parse width value with
    | some n => .ok n
    | none => .error (.invalidField field value)

def parseI64 (fields : Fields) (field : String) (default : Int) : Except OnlineError Int :=
  parseInteger 64 fields field default

def parseI32 (fields : Fields) (field : String) (default : Int) : Except OnlineError Int :=
  parseInteger 32 fields field default

def loadOnline (store : Store) (gid : Int) : Except OnlineError (Option OnlineData) :=
  if gid ≤ 0 then .error .invalidGid
  else
    let fields := store (onlineKey gid)
    if fields.entries.isEmpty then .ok none
    else do
      return some
        { account := (fields.lookup "acc").getD ""
          gid := ← parseI64 fields "gid" gid
          token := (fields.lookup "token").getD ""
          session := ← parseI64 fields "sess" 0
          loginTime := ← parseI64 fields "lgin" 0
          logoutTime := ← parseI64 fields "lgou" 0
          publicId := ← parseI32 fields "psid" 0
          gateId := ← parseI32 fields "gsid" 0
          logicId := ← parseI32 fields "lsid" 0 }

def saveOnline (store : Store) (data : OnlineData) : Except OnlineError Store :=
  if data.gid ≤ 0 then .error .invalidGid
  else
    .ok (Function.update store (onlineKey data.gid) (hset (store (onlineKey data.gid))
      [("acc", data.account), ("gid", toString data.gid), ("token", data.token),
        ("sess", toString data.session), ("lgin", toString data.loginTime),
        ("lgou", toString data.logoutTime), ("psid", toString data.publicId),
        ("gsid", toString data.gateId), ("lsid", toString data.logicId)]))

def setToken (store : Store) (gid : Int) (account token : String) : Except OnlineError Store :=
  if gid ≤ 0 then .error .invalidGid
  else
    .ok (Function.update store (onlineKey gid) (hset (store (onlineKey gid))
      [("acc", account), ("gid", toString gid), ("token", token)]))

def setLogicOwner (store : Store) (gid logicId : Int) : Except OnlineError Store :=
  if gid ≤ 0 then .error .invalidGid
  else
    .ok (Function.update store (onlineKey gid)
      (hset (store (onlineKey gid)) [("lsid", toString logicId)]))

/-- `tonumber` of a script, on the texts of integers; no other text is ever
stored under `sess` or passed to the script. -/
def luaTonumber (text : String) : Option Int :=
  (Decimal.integer text).map tonumber

def clearGateBySession (store : Store) (gid session logoutTime : Int) : Store × Bool :=
  match (store (onlineKey gid)).lookup "sess" with
  | none => (store, false)
  | some current =>
    if luaTonumber current ≠ luaTonumber (toString session) then (store, false)
    else
      (Function.update store (onlineKey gid) (hset (store (onlineKey gid))
        [("gsid", "0"), ("sess", "0"), ("lgou", toString logoutTime)]), true)

/-! ## The texts of a typed hash -/

structure Represents (fields : Fields) (hash : GamerHash) : Prop where
  acc : fields.lookup "acc" = hash.acc
  gid : fields.lookup "gid" = hash.gid.map toString
  token : fields.lookup "token" = hash.token
  sess : fields.lookup "sess" = hash.sess.map toString
  lgin : fields.lookup "lgin" = hash.lgin.map toString
  lgou : fields.lookup "lgou" = hash.lgou.map toString
  psid : fields.lookup "psid" = hash.psid.map toString
  gsid : fields.lookup "gsid" = hash.gsid.map toString
  lsid : fields.lookup "lsid" = hash.lsid.map toString
  missing : fields.entries.isEmpty = true ↔ hash = .absent

theorem represents_empty : Represents ∅ .absent := by
  constructor <;> simp [GamerHash.absent]

theorem lookup_hset_cons (fields : Fields) (name value field : String) (pairs : List (String × String)) :
    (hset fields ((name, value) :: pairs)).lookup field
      = (hset (fields.insert name value) pairs).lookup field := rfl

theorem lookup_hset_nil (fields : Fields) (field : String) :
    (hset fields []).lookup field = fields.lookup field := rfl

theorem hset_nonempty (fields : Fields) (name value : String) (pairs : List (String × String)) :
    (hset fields ((name, value) :: pairs)).entries.isEmpty = false := by
  induction pairs generalizing fields name value with
  | nil => simp [hset]
  | cons pair rest ih => exact ih (fields.insert name value) pair.1 pair.2

/-- `HSET` of the nine fields, whatever the hash was before. -/
theorem Represents.save (fields : Fields) (data : OnlineData) :
    Represents (hset fields
      [("acc", data.account), ("gid", toString data.gid), ("token", data.token),
        ("sess", toString data.session), ("lgin", toString data.loginTime),
        ("lgou", toString data.logoutTime), ("psid", toString data.publicId),
        ("gsid", toString data.gateId), ("lsid", toString data.logicId)])
      ⟨some data.account, some data.gid, some data.token, some data.session, some data.loginTime,
        some data.logoutTime, some data.publicId, some data.gateId, some data.logicId⟩ := by
  constructor
  case missing => simp [hset_nonempty, GamerHash.absent]
  all_goals simp [lookup_hset_cons, lookup_hset_nil]

variable {fields : Fields} {hash : GamerHash}

theorem Represents.setToken (represents : Represents fields hash) (account : String) (gid : Int)
    (token : String) :
    Represents (hset fields [("acc", account), ("gid", toString gid), ("token", token)])
      { hash with acc := some account, gid := some gid, token := some token } := by
  constructor
  case missing => simp [hset_nonempty, GamerHash.absent]
  all_goals simp [lookup_hset_cons, lookup_hset_nil, represents.sess, represents.lgin,
    represents.lgou, represents.psid, represents.gsid, represents.lsid]

theorem Represents.setLogicOwner (represents : Represents fields hash) (logicId : Int) :
    Represents (hset fields [("lsid", toString logicId)]) { hash with lsid := some logicId } := by
  constructor
  case missing => simp [hset_nonempty, GamerHash.absent]
  all_goals simp [lookup_hset_cons, lookup_hset_nil, represents.acc, represents.gid,
    represents.token, represents.sess, represents.lgin, represents.lgou, represents.psid, represents.gsid]

theorem Represents.clear (represents : Represents fields hash) (logoutTime : Int) :
    Represents (hset fields [("gsid", "0"), ("sess", "0"), ("lgou", toString logoutTime)])
      { hash with gsid := some 0, sess := some 0, lgou := some logoutTime } := by
  have zero : Int.repr 0 = "0" := rfl
  constructor
  case missing => simp [hset_nonempty, GamerHash.absent]
  all_goals simp [lookup_hset_cons, lookup_hset_nil, zero, represents.acc, represents.gid,
    represents.token, represents.lgin, represents.psid, represents.lsid]

/-! ## The commands -/

inductive Command where
  | saveOnline (data : OnlineData)
  | setToken (gid : Int) (account token : String)
  | setLogicOwner (gid logicId : Int)
  | clearGateBySession (gid session logoutTime : Int)

/-- A command that is refused leaves everything as it was. -/
def settle {σ ε : Type} (before : σ) : Except ε σ → σ
  | .ok after => after
  | .error _ => before

def Command.run (store : Store) : Command → Store
  | .saveOnline data => settle store (Hash.saveOnline store data)
  | .setToken gid account token => settle store (Hash.setToken store gid account token)
  | .setLogicOwner gid logicId => settle store (Hash.setLogicOwner store gid logicId)
  | .clearGateBySession gid session logoutTime => (Hash.clearGateBySession store gid session logoutTime).1

/-- The same command on the typed hashes. -/
def Command.apply (redis : Redis) : Command → Redis
  | .saveOnline data => settle redis (Cache.saveOnline redis data)
  | .setToken gid account token => settle redis (Cache.setToken redis gid account token)
  | .setLogicOwner gid logicId => settle redis (Cache.setLogicOwner redis gid logicId)
  | .clearGateBySession gid session logoutTime => (Cache.clearGateBySession redis gid session logoutTime).1

def StandsFor (store : Store) (redis : Redis) : Prop :=
  ∀ gid, Represents (store (onlineKey gid)) (redis gid)

theorem onlineKey_inj {gid other : Int} (same : onlineKey gid = onlineKey other) : gid = other :=
  Decimal.toString_inj (String.append_right_inj "gamer:" |>.mp same)

variable {store : Store} {redis : Redis}

theorem StandsFor.update (stands : StandsFor store redis) {gid : Int} (written : Represents fields hash) :
    StandsFor (Function.update store (onlineKey gid) fields) (Function.update redis gid hash) := by
  intro other
  by_cases same : other = gid
  · rw [same, Function.update_self, Function.update_self]
    exact written
  · have keys : onlineKey other ≠ onlineKey gid := fun equal => same (onlineKey_inj equal)
    rw [Function.update_of_ne same, Function.update_of_ne keys]
    exact stands other

theorem luaTonumber_toString (n : Int) : luaTonumber (toString n) = some (tonumber n) := by
  rw [luaTonumber, Decimal.integer_toString, Option.map_some]

/-- The script and its typed counterpart take the same sessions for their own. -/
theorem StandsFor.clear (stands : StandsFor store redis) (gid session logoutTime : Int) :
    (clearGateBySession store gid session logoutTime).2
        = (Cache.clearGateBySession redis gid session logoutTime).2
      ∧ StandsFor (clearGateBySession store gid session logoutTime).1
          (Cache.clearGateBySession redis gid session logoutTime).1 := by
  have found := (stands gid).sess
  cases stored : (redis gid).sess with
  | none =>
    rw [stored] at found
    simp only [Option.map_none] at found
    simp only [clearGateBySession, found, Cache.clearGateBySession, stored]
    exact ⟨rfl, stands⟩
  | some sess =>
    rw [stored] at found
    simp only [Option.map_some] at found
    simp only [clearGateBySession, found, Cache.clearGateBySession, stored, luaTonumber_toString]
    by_cases current : tonumber sess = tonumber session
    · simp only [current, ne_eq, not_true_eq_false, if_false, Option.any_some, decide_true, if_true]
      exact ⟨trivial, stands.update ((stands gid).clear logoutTime)⟩
    · simp only [current, ne_eq, Option.some.injEq, not_false_eq_true, if_true, Option.any_some,
        decide_false, Bool.false_eq_true, if_false]
      exact ⟨trivial, stands⟩

/-- Every command keeps the texts in step with the typed hashes. -/
theorem StandsFor.run (stands : StandsFor store redis) (command : Command) :
    StandsFor (command.run store) (command.apply redis) := by
  cases command with
  | saveOnline data =>
    simp only [Command.run, Command.apply, Hash.saveOnline, Cache.saveOnline]
    by_cases invalid : data.gid ≤ 0
    · simp only [if_pos invalid]
      exact stands
    · simp only [if_neg invalid]
      exact stands.update (.save _ data)
  | setToken gid account token =>
    simp only [Command.run, Command.apply, Hash.setToken, Cache.setToken]
    by_cases invalid : gid ≤ 0
    · simp only [if_pos invalid]
      exact stands
    · simp only [if_neg invalid]
      exact stands.update ((stands gid).setToken account gid token)
  | setLogicOwner gid logicId =>
    simp only [Command.run, Command.apply, Hash.setLogicOwner, Cache.setLogicOwner]
    by_cases invalid : gid ≤ 0
    · simp only [if_pos invalid]
      exact stands
    · simp only [if_neg invalid]
      exact stands.update ((stands gid).setLogicOwner logicId)
  | clearGateBySession gid session logoutTime => exact (stands.clear gid session logoutTime).2

/-! ## Reading a record -/

/-- The integers of a hash have the types of the fields of `OnlineData`. -/
structure Typed (hash : GamerHash) : Prop where
  gid : ∀ n ∈ hash.gid, Decimal.Fits 64 n
  sess : ∀ n ∈ hash.sess, Decimal.Fits 64 n
  lgin : ∀ n ∈ hash.lgin, Decimal.Fits 64 n
  lgou : ∀ n ∈ hash.lgou, Decimal.Fits 64 n
  psid : ∀ n ∈ hash.psid, Decimal.Fits 32 n
  gsid : ∀ n ∈ hash.gsid, Decimal.Fits 32 n
  lsid : ∀ n ∈ hash.lsid, Decimal.Fits 32 n

theorem parseInteger_text {width : Nat} {field : String} {value : Option Int}
    (found : fields.lookup field = value.map toString) (typed : ∀ n ∈ value, Decimal.Fits width n)
    (default : Int) : parseInteger width fields field default = .ok (value.getD default) := by
  cases value with
  | none =>
    simp only [Option.map_none] at found
    simp only [parseInteger, found, Option.getD_none]
  | some n =>
    simp only [Option.map_some] at found
    simp only [parseInteger, found, Decimal.parse_toString (typed n rfl), Option.getD_some]

theorem loadOnline_eq (stands : StandsFor store redis) {gid : Int} (typed : Typed (redis gid)) :
    loadOnline store gid = Cache.loadOnline redis gid := by
  have represents := stands gid
  simp only [loadOnline, Cache.loadOnline, represents.missing]
  by_cases invalid : gid ≤ 0
  · simp only [if_pos invalid]
  · simp only [if_neg invalid]
    by_cases absent : redis gid = .absent
    · simp only [if_pos absent]
    · simp only [if_neg absent, parseI64, parseI32, parseInteger_text represents.gid typed.gid,
        parseInteger_text represents.sess typed.sess, parseInteger_text represents.lgin typed.lgin,
        parseInteger_text represents.lgou typed.lgou, parseInteger_text represents.psid typed.psid,
        parseInteger_text represents.gsid typed.gsid, parseInteger_text represents.lsid typed.lsid,
        represents.acc, represents.token]
      rfl

/-- The arguments of a command have the types of its parameters. -/
def Command.Typed : Command → Prop
  | .saveOnline data =>
    Decimal.Fits 64 data.gid ∧ Decimal.Fits 64 data.session ∧ Decimal.Fits 64 data.loginTime
      ∧ Decimal.Fits 64 data.logoutTime ∧ Decimal.Fits 32 data.publicId ∧ Decimal.Fits 32 data.gateId
      ∧ Decimal.Fits 32 data.logicId
  | .setToken gid _ _ => Decimal.Fits 64 gid
  | .setLogicOwner gid logicId => Decimal.Fits 64 gid ∧ Decimal.Fits 32 logicId
  | .clearGateBySession gid session logoutTime =>
    Decimal.Fits 64 gid ∧ Decimal.Fits 64 session ∧ Decimal.Fits 64 logoutTime

instance : (command : Command) → Decidable command.Typed
  | .saveOnline _ => inferInstanceAs (Decidable (_ ∧ _))
  | .setToken _ _ _ => inferInstanceAs (Decidable (Decimal.Fits _ _))
  | .setLogicOwner _ _ => inferInstanceAs (Decidable (_ ∧ _))
  | .clearGateBySession _ _ _ => inferInstanceAs (Decidable (_ ∧ _))

/-- What a command does to the hash of one gid. -/
def Command.write (gid : Int) (hash : GamerHash) : Command → GamerHash
  | .saveOnline data =>
    if data.gid = gid then
      ⟨some data.account, some data.gid, some data.token, some data.session, some data.loginTime,
        some data.logoutTime, some data.publicId, some data.gateId, some data.logicId⟩
    else hash
  | .setToken target account token =>
    if target = gid then { hash with acc := some account, gid := some gid, token := some token } else hash
  | .setLogicOwner target logicId =>
    if target = gid then { hash with lsid := some logicId } else hash
  | .clearGateBySession target session logoutTime =>
    if target = gid ∧ hash.sess.any (tonumber · = tonumber session) then
      { hash with gsid := some 0, sess := some 0, lgou := some logoutTime }
    else hash

theorem update_at {gid target : Int} {written : GamerHash} :
    Function.update redis target written gid = if target = gid then written else redis gid := by
  by_cases same : target = gid
  · rw [if_pos same, same, Function.update_self]
  · rw [if_neg same, Function.update_of_ne (Ne.symm same)]

theorem apply_at {gid : Int} (positive : 0 < gid) (command : Command) :
    command.apply redis gid = command.write gid (redis gid) := by
  cases command with
  | saveOnline data =>
    simp only [Command.apply, Command.write, Cache.saveOnline]
    by_cases invalid : data.gid ≤ 0
    · have other : data.gid ≠ gid := by omega
      simp only [if_pos invalid, if_neg other, settle]
    · simp only [if_neg invalid, settle, update_at]
  | setToken target account token =>
    simp only [Command.apply, Command.write, Cache.setToken]
    by_cases invalid : target ≤ 0
    · have other : target ≠ gid := by omega
      simp only [if_pos invalid, if_neg other, settle]
    · simp only [if_neg invalid, settle, update_at]
      by_cases same : target = gid
      · rw [if_pos same, if_pos same, same]
      · rw [if_neg same, if_neg same]
  | setLogicOwner target logicId =>
    simp only [Command.apply, Command.write, Cache.setLogicOwner]
    by_cases invalid : target ≤ 0
    · have other : target ≠ gid := by omega
      simp only [if_pos invalid, if_neg other, settle]
    · simp only [if_neg invalid, settle, update_at]
      by_cases same : target = gid
      · rw [if_pos same, if_pos same, same]
      · rw [if_neg same, if_neg same]
  | clearGateBySession target session logoutTime =>
    simp only [Command.apply, Command.write, Cache.clearGateBySession]
    by_cases same : target = gid
    · subst same
      by_cases current : (redis target).sess.any (tonumber · = tonumber session) = true
      · simp only [current, Function.update_self, and_self, if_true]
      · rw [if_neg current, if_neg fun both => current both.2]
    · simp only [same, false_and, if_false]
      split
      · exact Function.update_of_ne (Ne.symm same) _ _
      · rfl

/-- Commands with arguments of their types keep the hash in range. -/
theorem Typed.write {gid : Int} (typed : Typed hash) {command : Command} (arguments : command.Typed) :
    Typed (command.write gid hash) := by
  cases command with
  | saveOnline data =>
    obtain ⟨gidFits, sessFits, lginFits, lgouFits, psidFits, gsidFits, lsidFits⟩ := arguments
    simp only [Command.write]
    split
    · constructor <;> intro n member <;> cases member <;> assumption
    · exact typed
  | setToken target account token =>
    simp only [Command.write]
    split
    next same =>
      subst same
      refine { typed with gid := ?_ }
      intro n member
      cases member
      exact arguments
    · exact typed
  | setLogicOwner target logicId =>
    simp only [Command.write]
    split
    · refine { typed with lsid := ?_ }
      intro n member
      cases member
      exact arguments.2
    · exact typed
  | clearGateBySession target session logoutTime =>
    simp only [Command.write]
    split
    · refine { typed with sess := ?_, lgou := ?_, gsid := ?_ }
      · intro n member
        cases member
        decide
      · intro n member
        cases member
        exact arguments.2.2
      · intro n member
        cases member
        decide
    · exact typed

/-! ## The record that the commands describe -/

/-- An online record; `held` when a session has been saved in it, also when it
has been cleared since. -/
structure Record extends OnlineData where
  held : Bool
deriving DecidableEq

def Record.blank (gid : Int) : Record :=
  { account := "", gid := gid, token := "", session := 0, loginTime := 0, logoutTime := 0,
    publicId := 0, gateId := 0, logicId := 0, held := false }

def Record.Matches (record : Record) (session : Int) : Prop :=
  record.held = true ∧ record.session = session

instance (record : Record) (session : Int) : Decidable (record.Matches session) :=
  inferInstanceAs (Decidable (_ ∧ _))

/-- The field updates that a command stands for; nothing is recorded until the
first writer. -/
def Command.update (gid : Int) (record : Option Record) : Command → Option Record
  | .saveOnline data => if data.gid = gid then some { data with held := true } else record
  | .setToken target account token =>
    if target = gid then
      some { record.getD (.blank gid) with account := account, gid := gid, token := token }
    else record
  | .setLogicOwner target logicId =>
    if target = gid then some { record.getD (.blank gid) with logicId := logicId } else record
  | .clearGateBySession target session logoutTime =>
    if target = gid then
      record.map fun r =>
        if r.Matches session then { r with gateId := 0, session := 0, logoutTime := logoutTime } else r
    else record

def decode (gid : Int) (hash : GamerHash) : Record :=
  { account := hash.acc.getD "", gid := hash.gid.getD gid, token := hash.token.getD "",
    session := hash.sess.getD 0, loginTime := hash.lgin.getD 0, logoutTime := hash.lgou.getD 0,
    publicId := hash.psid.getD 0, gateId := hash.gsid.getD 0, logicId := hash.lsid.getD 0,
    held := hash.sess.isSome }

def view (gid : Int) (hash : GamerHash) : Option Record :=
  if hash = .absent then none else some (decode gid hash)

theorem loadOnline_view {gid : Int} (positive : 0 < gid) :
    Cache.loadOnline redis gid = .ok ((view gid (redis gid)).map Record.toOnlineData) := by
  have valid : ¬ gid ≤ 0 := by omega
  simp only [Cache.loadOnline, view, if_neg valid]
  split
  · rfl
  · rfl

theorem view_getD (gid : Int) (hash : GamerHash) : (view gid hash).getD (.blank gid) = decode gid hash := by
  simp only [view]
  split
  next absent => rw [absent]; rfl
  next => rfl

theorem view_of_present {gid : Int} (present : hash ≠ .absent) : view gid hash = some (decode gid hash) :=
  if_neg present

theorem decode_matches {gid session : Int} :
    (decode gid hash).Matches session ↔ hash.sess = some session := by
  cases stored : hash.sess <;> simp [Record.Matches, decode, stored]

/-- A clear of this session is exact: the script does not take another for it. -/
def Command.Exact : Command → Prop
  | .clearGateBySession _ session _ => session.natAbs < 2 ^ 53
  | _ => True

instance : (command : Command) → Decidable command.Exact
  | .saveOnline _ => inferInstanceAs (Decidable True)
  | .setToken _ _ _ => inferInstanceAs (Decidable True)
  | .setLogicOwner _ _ => inferInstanceAs (Decidable True)
  | .clearGateBySession _ session _ => inferInstanceAs (Decidable (session.natAbs < 2 ^ 53))

theorem sess_any_iff {session : Int} (exact : session.natAbs < 2 ^ 53) :
    hash.sess.any (tonumber · = tonumber session) = true ↔ hash.sess = some session := by
  cases hash.sess with
  | none => simp
  | some stored =>
    simp only [Option.any_some, decide_eq_true_eq, Option.some.injEq]
    rw [eq_comm, tonumber_inj exact, eq_comm]

theorem view_write {gid : Int} {command : Command} (exact : command.Exact) :
    view gid (command.write gid hash) = command.update gid (view gid hash) := by
  cases command with
  | saveOnline data =>
    simp only [Command.write, Command.update]
    split
    · exact view_of_present (by simp [GamerHash.absent])
    · rfl
  | setToken target account token =>
    simp only [Command.write, Command.update, view_getD]
    split
    · exact view_of_present (by simp [GamerHash.absent])
    · rfl
  | setLogicOwner target logicId =>
    simp only [Command.write, Command.update, view_getD]
    split
    · exact view_of_present (by simp [GamerHash.absent])
    · rfl
  | clearGateBySession target session logoutTime =>
    simp only [Command.write, Command.update, sess_any_iff exact]
    by_cases same : target = gid
    · simp only [same, true_and, if_true]
      by_cases current : hash.sess = some session
      · have present : hash ≠ .absent := by
          rintro rfl
          cases current
        have cleared :
            { hash with gsid := some 0, sess := some 0, lgou := some logoutTime } ≠ GamerHash.absent := by
          simp [GamerHash.absent]
        rw [if_pos current, view_of_present present, Option.map_some, if_pos (decode_matches.mpr current)]
        rw [view_of_present cleared]
        simp [decode, current]
      · rw [if_neg current]
        by_cases present : hash = .absent
        · simp only [view, if_pos present, Option.map_none]
        · rw [view_of_present present, Option.map_some, if_neg fun held => current (decode_matches.mp held)]
    · simp only [same, false_and, if_false]

/-! ## Whole runs -/

/-- The store after the commands, from missing keys. -/
def stored (commands : List Command) : Store := commands.foldl Command.run fun _ => ∅

def recorded (gid : Int) (commands : List Command) : Option Record :=
  commands.foldl (Command.update gid) none

def Command.Creates (gid : Int) : Command → Prop
  | .saveOnline data => data.gid = gid
  | .setToken target _ _ => target = gid
  | .setLogicOwner target _ => target = gid
  | .clearGateBySession _ _ _ => False

/-- The texts, the typed hashes and the record after the same commands. -/
structure Agree (gid : Int) (store : Store) (redis : Redis) (record : Option Record) : Prop where
  stands : StandsFor store redis
  typed : Typed (redis gid)
  viewed : view gid (redis gid) = record

theorem Agree.run {gid : Int} {record : Option Record} (positive : 0 < gid)
    (agree : Agree gid store redis record) {command : Command} (arguments : command.Typed)
    (exact : command.Exact) :
    Agree gid (command.run store) (command.apply redis) (command.update gid record) where
  stands := agree.stands.run command
  typed := by
    rw [apply_at positive]
    exact agree.typed.write arguments
  viewed := by
    rw [apply_at positive, view_write exact, agree.viewed]

theorem Agree.load {gid : Int} {record : Option Record} (positive : 0 < gid)
    (agree : Agree gid store redis record) :
    loadOnline store gid = .ok (record.map Record.toOnlineData) := by
  rw [loadOnline_eq agree.stands agree.typed, loadOnline_view positive, agree.viewed]

theorem Agree.runs {gid : Int} {record : Option Record} (positive : 0 < gid)
    (agree : Agree gid store redis record) {commands : List Command}
    (arguments : ∀ command ∈ commands, command.Typed) (exact : ∀ command ∈ commands, command.Exact) :
    Agree gid (commands.foldl Command.run store) (commands.foldl Command.apply redis)
      (commands.foldl (Command.update gid) record) := by
  induction commands generalizing store redis record with
  | nil => exact agree
  | cons command rest ih =>
    have first := agree.run positive (arguments command List.mem_cons_self) (exact command List.mem_cons_self)
    exact ih first (fun c member => arguments c (List.mem_cons_of_mem _ member))
      (fun c member => exact c (List.mem_cons_of_mem _ member))

/-- From missing keys: the hash of texts stands for the record of the commands. -/
theorem agree_stored {gid : Int} (positive : 0 < gid) {commands : List Command}
    (arguments : ∀ command ∈ commands, command.Typed) (exact : ∀ command ∈ commands, command.Exact) :
    Agree gid (stored commands) (commands.foldl Command.apply fun _ => .absent) (recorded gid commands) := by
  have initial : Agree gid (fun _ => ∅) (fun _ => .absent) none :=
    { stands := fun _ => represents_empty
      typed := by constructor <;> intro n member <;> cases member
      viewed := if_pos rfl }
  exact initial.runs positive arguments exact

theorem update_isSome {gid : Int} {record : Option Record} {command : Command} :
    (command.update gid record).isSome = true ↔ command.Creates gid ∨ record.isSome = true := by
  cases command <;> simp only [Command.update, Command.Creates] <;> split <;> simp_all

theorem recorded_eq_none {gid : Int} {commands : List Command} :
    recorded gid commands = none ↔ ∀ command ∈ commands, ¬ command.Creates gid := by
  induction commands using List.reverseRecOn with
  | nil => simp [recorded]
  | append_singleton commands last ih =>
    have snoc : recorded gid (commands ++ [last]) = last.update gid (recorded gid commands) := by
      rw [recorded, List.foldl_append]
      rfl
    rw [snoc, ← Option.not_isSome_iff_eq_none, update_isSome, not_or, Option.not_isSome_iff_eq_none, ih]
    simp only [List.mem_append, List.mem_singleton, or_imp, forall_and, forall_eq]
    exact and_comm

theorem clear_answer {gid : Int} {record : Option Record} (agree : Agree gid store redis record)
    {session : Int} (exact : session.natAbs < 2 ^ 53) (logoutTime : Int) :
    (clearGateBySession store gid session logoutTime).2 = true
      ↔ ∃ r, record = some r ∧ r.Matches session := by
  rw [(agree.stands.clear gid session logoutTime).1, ← agree.viewed]
  have answer : (Cache.clearGateBySession redis gid session logoutTime).2 = true
      ↔ (redis gid).sess = some session := by
    rw [← sess_any_iff exact, Cache.clearGateBySession]
    split <;> simp_all
  rw [answer]
  constructor
  · intro current
    have present : redis gid ≠ .absent := by
      intro absent
      rw [absent] at current
      cases current
    exact ⟨decode gid (redis gid), view_of_present present, decode_matches.mpr current⟩
  · rintro ⟨r, viewed, held⟩
    simp only [view] at viewed
    split at viewed
    · cases viewed
    · cases viewed
      exact decode_matches.mp held

theorem clear_refused {gid session logoutTime : Int}
    (refused : (clearGateBySession store gid session logoutTime).2 = false) :
    (clearGateBySession store gid session logoutTime).1 = store := by
  simp only [clearGateBySession] at refused ⊢
  split
  · rfl
  · split
    · rfl
    · simp_all

/-- After any commands `load_online` answers the record that they describe, a
save is read back as it was, and a clear for another session changes nothing. -/
theorem loadOnline_follows_commands {gid : Int} (positive : 0 < gid) {commands : List Command}
    (arguments : ∀ command ∈ commands, command.Typed) (exact : ∀ command ∈ commands, command.Exact) :
    loadOnline (stored commands) gid = .ok ((recorded gid commands).map Record.toOnlineData)
      ∧ (recorded gid commands = none ↔ ∀ command ∈ commands, ¬ command.Creates gid)
      ∧ (∀ data : OnlineData, data.gid = gid → (Command.saveOnline data).Typed →
          loadOnline ((Command.saveOnline data).run (stored commands)) gid = .ok (some data))
      ∧ (∀ session logoutTime : Int, session.natAbs < 2 ^ 53 →
          ((clearGateBySession (stored commands) gid session logoutTime).2 = true
              ↔ ∃ r, recorded gid commands = some r ∧ r.Matches session)
            ∧ ((clearGateBySession (stored commands) gid session logoutTime).2 = false →
                (clearGateBySession (stored commands) gid session logoutTime).1 = stored commands)) := by
  have agree := agree_stored positive arguments exact
  refine ⟨agree.load positive, recorded_eq_none, ?_, ?_⟩
  · intro data named typed
    have saved := (agree.run positive typed (show (Command.saveOnline data).Exact from trivial)).load positive
    rw [saved, Command.update, if_pos named]
    rfl
  · intro session logoutTime small
    exact ⟨clear_answer agree small logoutTime, clear_refused⟩

/-- A token, a login on Logic 3 through Gate 2, and the disconnect. -/
theorem loadOnline_after_disconnect :
    loadOnline (stored
      [.setToken 7 "hero" "t", .setLogicOwner 7 3, .saveOnline ⟨"hero", 7, "t", 8, 100, 0, 0, 2, 3⟩,
        .clearGateBySession 7 9 150, .clearGateBySession 7 8 200]) 7
      = .ok (some ⟨"hero", 7, "t", 0, 100, 200, 0, 0, 3⟩) :=
  (loadOnline_follows_commands (by decide) (by decide) (by decide)).1

end Xkk.Cache.Hash
