import Xkk.Auth.Account
import Xkk.Lib.Decimal
import Xkk.Lib.Documents
import Xkk.Logic.PlayerState

/-! # The documents of accounts, players and Public players

The encoders and decoders that are generated for the persistent models.  A
record becomes a document with one key per field; a field may be left out when
it has its default, and the decoder starts from the default of every field.
`change` of an item is not stored.

The readers of single values belong to the Mongo crate.  `Xmongo` is what the
generated code relies on: a value of a kind is read by the reader of that kind,
and the decimal text of a 32-bit key is read back.
-/

namespace Xkk.Persist

open Xkk.Lib Xkk.Lib.Documents Xkk.Protocol

inductive Bson where
  | int32 (n : Int)
  | int64 (n : Int)
  | string (text : String)
  | array (items : List Bson)
  | document (entries : List (String × Bson))
  -- the kinds that no model is written with
  | other (kind : Nat)
deriving Repr

abbrev BsonDocument := Document String Bson

structure Xmongo (E : Type) where
  document : Bson → String → Except E BsonDocument
  array : Bson → String → Except E (List Bson)
  i32 : Bson → String → Except E Int
  i64 : Bson → String → Except E Int
  string : Bson → String → Except E String
  i32MapKey : String → String → Except E Int
  document_ok : ∀ doc name, document (.document doc) name = .ok doc
  array_ok : ∀ items name, array (.array items) name = .ok items
  i32_ok : ∀ n name, i32 (.int32 n) name = .ok n
  i64_ok : ∀ n name, i64 (.int64 n) name = .ok n
  string_ok : ∀ text name, string (.string text) name = .ok text
  i32MapKey_ok : ∀ n name, Decimal.Fits 32 n → i32MapKey (toString n) name = .ok n

/-- Readers that accept nothing but their own kind. -/
def Xmongo.strict : Xmongo String where
  document value name := match value with | .document doc => .ok doc | _ => .error name
  array value name := match value with | .array items => .ok items | _ => .error name
  i32 value name := match value with | .int32 n => .ok n | _ => .error name
  i64 value name := match value with | .int64 n => .ok n | _ => .error name
  string value name := match value with | .string text => .ok text | _ => .error name
  i32MapKey key name := match Decimal.parse 32 key with | some n => .ok n | none => .error name
  document_ok _ _ := rfl
  array_ok _ _ := rfl
  i32_ok _ _ := rfl
  i64_ok _ _ := rfl
  string_ok _ _ := rfl
  i32MapKey_ok n name fits := by simp only [Decimal.parse_toString fits]

attribute [simp] Xmongo.document_ok Xmongo.array_ok Xmongo.i32_ok Xmongo.i64_ok Xmongo.string_ok

variable {E : Type}

/-- A field that is missing keeps its default. -/
def field {α : Type} (doc : BsonDocument) (key : String) (default : α)
    (read : Bson → String → Except E α) : Except E α :=
  match doc.get key with
  | some value => read value key
  | none => .ok default

/-! ## Parts -/

def roleToBson (value : Auth.Role) : Bson :=
  .document <| Document.empty
    |>.insert "gid" (.int64 value.gid)
    |>.insert "sid" (.int32 value.sid)
    |>.insert "nm" (.string value.name)
    |>.insert "lv" (.int32 value.level)
    |>.insert "ic" (.int32 value.icon)

def roleFromBson (xmongo : Xmongo E) (value : Bson) : Except E Auth.Role := do
  let doc ← xmongo.document value "Role"
  let gid ← field doc "gid" 0 xmongo.i64
  let sid ← field doc "sid" 0 xmongo.i32
  let name ← field doc "nm" "" xmongo.string
  let level ← field doc "lv" 0 xmongo.i32
  let icon ← field doc "ic" 0 xmongo.i32
  return ⟨gid, sid, name, level, icon⟩

structure PlayerInfo where
  gid : Int
  name : String
  level : Int
  icon : Int
  exp : Int
deriving DecidableEq, Repr

def playerInfoToBson (value : PlayerInfo) : Bson :=
  .document <| Document.empty
    |>.insert "gid" (.int64 value.gid)
    |>.insert "nm" (.string value.name)
    |>.insert "lv" (.int32 value.level)
    |>.insert "ic" (.int32 value.icon)
    |>.insert "xp" (.int64 value.exp)

def playerInfoFromBson (xmongo : Xmongo E) (value : Bson) : Except E PlayerInfo := do
  let doc ← xmongo.document value "PlayerInfo"
  let gid ← field doc "gid" 0 xmongo.i64
  let name ← field doc "nm" "" xmongo.string
  let level ← field doc "lv" 0 xmongo.i32
  let icon ← field doc "ic" 0 xmongo.i32
  let exp ← field doc "xp" 0 xmongo.i64
  return ⟨gid, name, level, icon, exp⟩

def itemToBson (value : Item) : Bson :=
  .document <| Document.empty
    |>.insert "id" (.int32 value.itemId)
    |>.insert "nm" (.int64 value.count)

def itemFromBson (xmongo : Xmongo E) (value : Bson) : Except E Item := do
  let doc ← xmongo.document value "Item"
  let itemId ← field doc "id" 0 xmongo.i32
  let count ← field doc "nm" 0 xmongo.i64
  return ⟨itemId, count, 0⟩

/-- The decoder of a repeated field. -/
def manyFromBson {α : Type} (xmongo : Xmongo E) (decode : Bson → Except E α) (value : Bson) (name : String) :
    Except E (List α) := do
  let items ← xmongo.array value name
  items.mapM decode

def mailDocument (value : Mail) : BsonDocument :=
  Document.empty
    |>.insert "id" (.int64 value.mailId)
    |>.insert "title" (.string value.title)
    |>.insert "content" (.string value.content)
    |>.insert "send" (.int64 value.sendTime)
    |>.insertIf (value.endTime ≠ 0) "end" (.int64 value.endTime)
    |>.insert "state" (.int32 value.state)
    |>.insertIf (!value.attachments.isEmpty) "items" (.array (value.attachments.map itemToBson))

def mailToBson (value : Mail) : Bson := .document (mailDocument value)

def mailFromBson (xmongo : Xmongo E) (value : Bson) : Except E Mail := do
  let doc ← xmongo.document value "Mail"
  let mailId ← field doc "id" 0 xmongo.i64
  let title ← field doc "title" "" xmongo.string
  let content ← field doc "content" "" xmongo.string
  let sendTime ← field doc "send" 0 xmongo.i64
  let endTime ← field doc "end" 0 xmongo.i64
  let state ← field doc "state" 0 xmongo.i32
  let attachments ← field doc "items" [] (manyFromBson xmongo (itemFromBson xmongo))
  return ⟨mailId, title, content, sendTime, endTime, state, attachments⟩

structure MailData where
  mails : List Mail
deriving DecidableEq, Repr

def mailDataDocument (value : MailData) : BsonDocument :=
  Document.empty
    |>.insertIf (!value.mails.isEmpty) "mails" (.array (value.mails.map mailToBson))

def mailDataToBson (value : MailData) : Bson := .document (mailDataDocument value)

def mailDataFromBson (xmongo : Xmongo E) (value : Bson) : Except E MailData := do
  let doc ← xmongo.document value "MailData"
  let mails ← field doc "mails" [] (manyFromBson xmongo (mailFromBson xmongo))
  return ⟨mails⟩

/-! ## Models -/

def accountDocument (value : Auth.AccountData) : BsonDocument :=
  Document.empty
    |>.insert "_id" (.string value.account)
    |>.insert "cred" (.string value.credentialHash)
    |>.insertIf (!value.roles.isEmpty) "roles" (.array (value.roles.map roleToBson))
    |>.insert "ct" (.int64 value.createdAt)

def accountFromBson (xmongo : Xmongo E) (value : Bson) : Except E Auth.AccountData := do
  let doc ← xmongo.document value "AccountData"
  let account ← field doc "_id" "" xmongo.string
  let credentialHash ← field doc "cred" "" xmongo.string
  let roles ← field doc "roles" [] (manyFromBson xmongo (roleFromBson xmongo))
  let createdAt ← field doc "ct" 0 xmongo.i64
  return ⟨account, credentialHash, roles, createdAt⟩

structure PlayerData where
  gid : Int
  profile : Option PlayerInfo
  items : Logic.Items
deriving DecidableEq

/-- The counts by the decimal text of the item id, in the order of the map. -/
def itemsDocument (hash : Logic.HashOrder) (items : Logic.Items) : BsonDocument :=
  (hash.order items.entries).foldl (fun doc entry => doc.insert (toString entry.1) (.int64 entry.2)) .empty

def playerDocument (hash : Logic.HashOrder) (value : PlayerData) : BsonDocument :=
  Document.empty
    |>.insert "_id" (.int64 value.gid)
    |>.insertSome "profile" (value.profile.map playerInfoToBson)
    |>.insertIf (!value.items.entries.isEmpty) "items" (.document (itemsDocument hash value.items))

def insertItems (xmongo : Xmongo E) : BsonDocument → Logic.Items → Except E Logic.Items
  | [], items => .ok items
  | (key, value) :: rest, items => do
    let itemId ← xmongo.i32MapKey key "items"
    let count ← xmongo.i64 value "items"
    insertItems xmongo rest (items.insert itemId count)

def itemsFromBson (xmongo : Xmongo E) (value : Bson) (name : String) : Except E Logic.Items := do
  let doc ← xmongo.document value name
  insertItems xmongo doc ∅

def playerFromBson (xmongo : Xmongo E) (value : Bson) : Except E PlayerData := do
  let doc ← xmongo.document value "PlayerData"
  let gid ← field doc "_id" 0 xmongo.i64
  let profile ← field doc "profile" none fun value _ => some <$> playerInfoFromBson xmongo value
  let items ← field doc "items" ∅ (itemsFromBson xmongo)
  return ⟨gid, profile, items⟩

structure PublicPlayerData where
  gid : Int
  mail : Option MailData
deriving DecidableEq, Repr

def publicPlayerDocument (value : PublicPlayerData) : BsonDocument :=
  Document.empty
    |>.insert "_id" (.int64 value.gid)
    |>.insertSome "mail" (value.mail.map mailDataToBson)

def publicPlayerFromBson (xmongo : Xmongo E) (value : Bson) : Except E PublicPlayerData := do
  let doc ← xmongo.document value "PublicPlayerData"
  let gid ← field doc "_id" 0 xmongo.i64
  let mail ← field doc "mail" none fun value _ => some <$> mailDataFromBson xmongo value
  return ⟨gid, mail⟩

/-! ## Round trips -/

section

variable (xmongo : Xmongo E)

@[simp] theorem ok_bind {α β : Type} (value : α) (next : α → Except E β) :
    (Except.ok value >>= next) = next value := rfl

@[simp] theorem pure_ok {α : Type} (value : α) : (pure value : Except E α) = .ok value := rfl

theorem role_round_trip (value : Auth.Role) : roleFromBson xmongo (roleToBson value) = .ok value := by
  simp [roleFromBson, roleToBson, field]

theorem playerInfo_round_trip (value : PlayerInfo) :
    playerInfoFromBson xmongo (playerInfoToBson value) = .ok value := by
  simp [playerInfoFromBson, playerInfoToBson, field]

/-- What is left of an item when it is read back. -/
def storedItem (item : Item) : Item := { item with change := 0 }

theorem item_round_trip (value : Item) : itemFromBson xmongo (itemToBson value) = .ok (storedItem value) := by
  simp [itemFromBson, itemToBson, field, storedItem]

/-- A repeated field is left out when it is empty, and then read as empty. -/
theorem many_round_trip {α β : Type} {doc : BsonDocument} {key : String} {values : List α} {encode : α → Bson}
    {decode : Bson → Except E β} {back : α → β}
    (written : doc.get key = if values.isEmpty then none else some (.array (values.map encode)))
    (reads : ∀ value, decode (encode value) = .ok (back value)) :
    field doc key [] (manyFromBson xmongo decode) = .ok (values.map back) := by
  cases values with
  | nil => simp [field, written]
  | cons head tail =>
    have list := mapM_encoded (l := head :: tail) fun value _ => reads value
    simp only [List.isEmpty_cons, Bool.false_eq_true, if_false] at written
    simp only [field, written, manyFromBson, Xmongo.array_ok, ok_bind, list]

def storedMail (mail : Mail) : Mail := { mail with attachments := mail.attachments.map storedItem }

theorem mail_round_trip (value : Mail) : mailFromBson xmongo (mailToBson value) = .ok (storedMail value) := by
  have attachments : field (mailDocument value) "items" [] (manyFromBson xmongo (itemFromBson xmongo))
      = .ok (value.attachments.map storedItem) :=
    many_round_trip xmongo (by simp [mailDocument]) (item_round_trip xmongo)
  have endTime : field (mailDocument value) "end" 0 xmongo.i64 = .ok value.endTime := by
    by_cases zero : value.endTime = 0
    · simp [field, mailDocument, zero]
    · simp [field, mailDocument, zero]
  simp [mailFromBson, mailToBson, attachments, endTime]
  simp [field, mailDocument, storedMail]

def storedMailData (data : MailData) : MailData := ⟨data.mails.map storedMail⟩

theorem mailData_round_trip (value : MailData) :
    mailDataFromBson xmongo (mailDataToBson value) = .ok (storedMailData value) := by
  have mails : field (mailDataDocument value) "mails" [] (manyFromBson xmongo (mailFromBson xmongo))
      = .ok (value.mails.map storedMail) :=
    many_round_trip xmongo (by simp [mailDataDocument]) (mail_round_trip xmongo)
  simp [mailDataFromBson, mailDataToBson, mails, storedMailData]

theorem account_round_trip (value : Auth.AccountData) :
    accountFromBson xmongo (.document (accountDocument value)) = .ok value := by
  have roles : field (accountDocument value) "roles" [] (manyFromBson xmongo (roleFromBson xmongo))
      = .ok (value.roles.map id) :=
    many_round_trip xmongo (by simp [accountDocument]) (role_round_trip xmongo)
  simp [accountFromBson, roles]
  simp [field, accountDocument]

def storedPublicPlayer (data : PublicPlayerData) : PublicPlayerData :=
  { data with mail := data.mail.map storedMailData }

theorem publicPlayer_round_trip (value : PublicPlayerData) :
    publicPlayerFromBson xmongo (.document (publicPlayerDocument value)) = .ok (storedPublicPlayer value) := by
  cases mail : value.mail with
  | none => simp [publicPlayerFromBson, publicPlayerDocument, field, mail, storedPublicPlayer]
  | some data =>
    simp [publicPlayerFromBson, publicPlayerDocument, field, mail, storedPublicPlayer, mailData_round_trip]

/-- The ids of the items are 32-bit integers. -/
def Typed (items : Logic.Items) : Prop := ∀ itemId ∈ items, Decimal.Fits 32 itemId

/-- The same player; the order in a map does not count. -/
structure PlayerData.Same (a b : PlayerData) : Prop where
  gid : a.gid = b.gid
  profile : a.profile = b.profile
  items : ∀ itemId, a.items.lookup itemId = b.items.lookup itemId

theorem PlayerData.Same.refl (a : PlayerData) : a.Same a := ⟨rfl, rfl, fun _ => rfl⟩

theorem itemsDocument_eq (hash : Logic.HashOrder) (items : Logic.Items) :
    itemsDocument hash items = (hash.order items.entries).map fun entry => (toString entry.1, .int64 entry.2) := by
  have keys : (hash.order items.entries).keys.Nodup :=
    (List.perm_nodupKeys (hash.perm items.entries)).mpr items.nodupKeys
  have texts : (((hash.order items.entries).map fun entry =>
      (toString entry.1, Bson.int64 entry.2)).map Prod.fst).Nodup := by
    rw [List.map_map]
    have same : (Prod.fst ∘ fun entry : Sigma fun _ : Int => Int => (toString entry.1, Bson.int64 entry.2))
        = toString ∘ Sigma.fst := rfl
    rw [same, ← List.map_map]
    exact keys.map fun _ _ => Decimal.toString_inj
  have missing : ∀ entry ∈ (hash.order items.entries).map fun entry => (toString entry.1, Bson.int64 entry.2),
      (Document.empty : BsonDocument).get entry.1 = none := fun _ _ => rfl
  have listed := Document.foldl_insert texts missing
  rw [List.foldl_map] at listed
  exact listed

theorem insertItems_eq {entries : List (Sigma fun _ : Int => Int)}
    (typed : ∀ entry ∈ entries, Decimal.Fits 32 entry.1) (items : Logic.Items) :
    insertItems xmongo (entries.map fun entry => (toString entry.1, .int64 entry.2)) items
      = .ok (entries.foldl (fun items entry => items.insert entry.1 entry.2) items) := by
  induction entries generalizing items with
  | nil => rfl
  | cons head tail ih =>
    have key := xmongo.i32MapKey_ok head.1 "items" (typed head List.mem_cons_self)
    have rest := ih (fun entry member => typed entry (List.mem_cons_of_mem _ member)) (items.insert head.1 head.2)
    simp only [List.map_cons, insertItems, key, Xmongo.i64_ok, ok_bind, rest, List.foldl_cons]

/-- Inserting different keys one after the other gives the map of the entries. -/
theorem lookup_foldl_insert {entries : List (Sigma fun _ : Int => Int)} (nodup : entries.NodupKeys)
    (items : Logic.Items) (itemId : Int) :
    (entries.foldl (fun items entry => items.insert entry.1 entry.2) items).lookup itemId
      = (entries.dlookup itemId).or (items.lookup itemId) := by
  induction entries generalizing items with
  | nil => simp
  | cons head tail ih =>
    rw [List.nodupKeys_cons] at nodup
    rw [List.foldl_cons, ih nodup.2]
    by_cases same : itemId = head.1
    · subst same
      rw [AList.lookup_insert, List.dlookup_eq_none.mpr nodup.1, List.dlookup_cons_eq]
      rfl
    · rw [AList.lookup_insert_ne same, List.dlookup_cons_ne _ _ same]

theorem items_round_trip (hash : Logic.HashOrder) {items : Logic.Items} (typed : Typed items) (name : String) :
    ∃ back, itemsFromBson xmongo (.document (itemsDocument hash items)) name = .ok back
      ∧ ∀ itemId, items.lookup itemId = back.lookup itemId := by
  have perm := hash.perm items.entries
  have nodup : (hash.order items.entries).NodupKeys := (List.perm_nodupKeys perm).mpr items.nodupKeys
  have fits : ∀ entry ∈ hash.order items.entries, Decimal.Fits 32 entry.1 := by
    intro entry member
    exact typed entry.1 (List.mem_map_of_mem (perm.mem_iff.mp member))
  refine ⟨(hash.order items.entries).foldl (fun items entry => items.insert entry.1 entry.2) ∅, ?_, ?_⟩
  · rw [itemsFromBson, itemsDocument_eq, Xmongo.document_ok, ok_bind, insertItems_eq xmongo fits]
  · intro itemId
    rw [lookup_foldl_insert nodup, AList.lookup_empty, Option.or_none]
    exact (List.perm_dlookup itemId nodup perm).symm

theorem player_round_trip (hash : Logic.HashOrder) {value : PlayerData} (typed : Typed value.items) :
    ∃ back, playerFromBson xmongo (.document (playerDocument hash value)) = .ok back ∧ value.Same back := by
  have profile : field (playerDocument hash value) "profile" none
      (fun value _ => some <$> playerInfoFromBson xmongo value) = .ok value.profile := by
    cases info : value.profile with
    | none => simp [field, playerDocument, info]
    | some info => simp [field, playerDocument, info, playerInfo_round_trip]
  have items : ∃ back, field (playerDocument hash value) "items" ∅ (itemsFromBson xmongo) = .ok back
      ∧ ∀ itemId, value.items.lookup itemId = back.lookup itemId := by
    cases empty : value.items.entries.isEmpty with
    | true =>
      refine ⟨∅, by simp [field, playerDocument, empty], ?_⟩
      intro itemId
      have none : value.items = ∅ := AList.ext (List.isEmpty_iff.mp empty)
      rw [none]
    | false =>
      obtain ⟨back, read, same⟩ := items_round_trip xmongo hash typed "items"
      exact ⟨back, by simp [field, playerDocument, empty, read], same⟩
  obtain ⟨back, read, same⟩ := items
  refine ⟨⟨value.gid, value.profile, back⟩, ?_, rfl, rfl, same⟩
  simp only [playerFromBson, Xmongo.document_ok, ok_bind, profile, read, pure_ok]
  simp [field, playerDocument]

end

end Xkk.Persist
