import Xkk.Persist.Models

/-! # The stores of accounts, players and Public players

Each store is a Mongo collection with one document per `_id`.  `save` replaces
the document or adds it, `save_batch` does so for many models in an order that
Mongo chooses, and `load` finds the document and decodes it.  A command that
fails may have been applied, a bulk write in part.

Over any calls, `load` returns the model that was written last under its id, as
the round trip of the model leaves it.
-/

namespace Xkk.Persist

open Xkk.Lib Xkk.Lib.Documents Xkk.Protocol

/-- What an equality filter on `_id` compares: the ids are integers and texts. -/
def Bson.sameId : Bson → Bson → Bool
  | .int64 m, .int64 n => m = n
  | .string s, .string t => s = t
  | _, _ => false

theorem Bson.eq_of_sameId {a b : Bson} (same : a.sameId b = true) : a = b := by
  cases a <;> cases b <;> simp_all [sameId]

abbrev Collection := List BsonDocument

/-- The filter `_id = id`. -/
def named (id : Bson) (document : BsonDocument) : Bool := (document.get "_id").any id.sameId

theorem named_of_get {id own : Bson} {document : BsonDocument} (found : document.get "_id" = some own) :
    named id document = id.sameId own := by
  simp [named, found]

theorem get_of_named {id : Bson} {document : BsonDocument} (isNamed : named id document = true) :
    document.get "_id" = some id := by
  cases found : document.get "_id" with
  | none => simp [named, found] at isNamed
  | some own =>
    rw [named_of_get found] at isNamed
    rw [Bson.eq_of_sameId isNamed]

/-- `BsonPathGetter`, as far as the stores use it; every model has an `_id`. -/
structure BsonPathGetter (T E : Type) where
  document : T → BsonDocument
  fromBson : Bson → Except E T
  identified : ∀ model, ∃ id, (document model).get "_id" = some id ∧ id.sameId id = true

section

variable {T E : Type} (model : BsonPathGetter T E)

/-! ## Commands -/

def loadModel (collection : Collection) (id : Bson) : Except E (Option T) :=
  match collection.find? (named id) with
  | some document => some <$> model.fromBson (.document document)
  | none => .ok none

/-- The write of one model: its id and its document. -/
def write (value : T) : Except String (Bson × BsonDocument) :=
  match (model.document value).get "_id" with
  | some id => .ok (id, model.document value)
  | none => .error "_id"

def replaceOne (collection : Collection) (write : Bson × BsonDocument) : Collection :=
  replace (named write.1) write.2 collection

def saveModel (collection : Collection) (value : T) : Except String Collection := do
  let write ← write model value
  return replaceOne collection write

/-- The models in the order in which Mongo applies their writes. -/
def saveModels (collection : Collection) (values : List T) : Except String Collection := do
  let writes ← values.mapM (write model)
  return writes.foldl replaceOne collection

inductive StoreCall (T : Type) where
  | save (value : T) (answer : Auth.Answer)
  | saveBatch (values applied : List T) (ok : Bool)
deriving Repr

/-- A bulk write that succeeds has applied every write, one that fails some of them. -/
def StoreCall.Possible : StoreCall T → Prop
  | .save _ _ => True
  | .saveBatch values applied true => applied.Perm values
  | .saveBatch values applied false => applied.Subperm values

def StoreCall.values : StoreCall T → List T
  | .save value _ => [value]
  | .saveBatch values _ _ => values

def StoreCall.succeeds : StoreCall T → Bool
  | .save _ answer => answer = .ok
  | .saveBatch _ _ ok => ok

/-- What has been written, in order. -/
def StoreCall.applied : StoreCall T → List T
  | .save value answer => if answer.applied then [value] else []
  | .saveBatch _ applied _ => applied

def StoreCall.exec (collection : Collection) : StoreCall T → Except String Collection
  | .save value answer => do
    let saved ← saveModel model collection value
    return if answer.applied then saved else collection
  | .saveBatch _ applied _ => saveModels model collection applied

def runStore (collection : Collection) : List (StoreCall T) → Except String Collection
  | [] => .ok collection
  | call :: rest => do
    let next ← call.exec model collection
    runStore next rest

/-- The model that was written last under an id. -/
def lastSaved (id : Bson) (written : List T) : Option T :=
  written.reverse.find? fun value => named id (model.document value)

/-! ## What is found -/

/-- The collection after writes that are applied one after the other. -/
def writeAll (collection : Collection) (values : List T) : Collection :=
  values.foldl (fun collection value =>
    replace (named (((model.document value).get "_id").getD (.other 0))) (model.document value) collection) collection

theorem write_eq (value : T) :
    write model value = .ok (((model.document value).get "_id").getD (.other 0), model.document value) := by
  obtain ⟨id, found, _⟩ := model.identified value
  simp only [write, found, Option.getD_some]

theorem saveModel_eq (collection : Collection) (value : T) :
    saveModel model collection value = .ok (writeAll model collection [value]) := by
  simp only [saveModel, write_eq, ok_bind, pure_ok, replaceOne, writeAll, List.foldl_cons, List.foldl_nil]

theorem saveModels_eq (collection : Collection) (values : List T) :
    saveModels model collection values = .ok (writeAll model collection values) := by
  have each : ∀ value ∈ values, write model (id value) = .ok _ := fun value _ => write_eq model value
  have writes := mapM_encoded each
  rw [List.map_id] at writes
  simp only [saveModels, writes, ok_bind, pure_ok, List.foldl_map, replaceOne, writeAll]

theorem exec_eq (collection : Collection) (call : StoreCall T) :
    call.exec model collection = .ok (writeAll model collection call.applied) := by
  cases call with
  | save value answer =>
    simp only [StoreCall.exec, saveModel_eq, ok_bind, pure_ok, StoreCall.applied]
    split <;> rfl
  | saveBatch values applied ok => exact saveModels_eq model collection applied

theorem runStore_eq (collection : Collection) (calls : List (StoreCall T)) :
    runStore model collection calls = .ok (writeAll model collection (calls.flatMap StoreCall.applied)) := by
  induction calls generalizing collection with
  | nil => rfl
  | cons call rest ih =>
    rw [runStore, exec_eq, ok_bind, ih, List.flatMap_cons]
    simp only [writeAll, List.foldl_append]

/-- After one write the model is found under its id, and nothing else has moved. -/
theorem find_write (collection : Collection) (value : T) (id : Bson) :
    (writeAll model collection [value]).find? (named id)
      = if named id (model.document value) then some (model.document value) else collection.find? (named id) := by
  obtain ⟨own, found, itself⟩ := model.identified value
  have asked : named id (model.document value) = id.sameId own := named_of_get found
  simp only [writeAll, List.foldl_cons, List.foldl_nil, found, Option.getD_some]
  split
  next here =>
    rw [asked] at here
    rw [Bson.eq_of_sameId here]
    exact find_replace_self (by rw [named_of_get found, itself]) collection
  next apart =>
    refine find_replace_other (by simpa using apart) ?_ collection
    intro document same
    rw [named_of_get (get_of_named same), ← asked]
    simpa using apart

theorem lastSaved_append (id : Bson) (before : List T) (value : T) :
    lastSaved model id (before ++ [value])
      = if named id (model.document value) then some value else lastSaved model id before := by
  rw [lastSaved, List.reverse_append, List.reverse_singleton, List.singleton_append, List.find?_cons]
  cases named id (model.document value) <;> rfl

theorem writeAll_append (collection : Collection) (before : List T) (value : T) :
    writeAll model collection (before ++ [value]) = writeAll model (writeAll model collection before) [value] := by
  simp only [writeAll, List.foldl_append, List.foldl_cons, List.foldl_nil]

theorem find_writeAll (collection : Collection) (values : List T) (id : Bson) :
    (writeAll model collection values).find? (named id)
      = ((lastSaved model id values).map model.document).or (collection.find? (named id)) := by
  induction values using List.reverseRecOn with
  | nil => rfl
  | append_singleton before value ih =>
    rw [writeAll_append, find_write, ih, lastSaved_append]
    cases named id (model.document value) <;> rfl

theorem mem_writeAll {values : List T} {document : BsonDocument} (member : document ∈ writeAll model [] values) :
    ∃ value ∈ values, document = model.document value := by
  induction values using List.reverseRecOn with
  | nil => cases member
  | append_singleton before value ih =>
    rw [writeAll_append] at member
    cases mem_replace member with
    | inl here => exact ⟨value, by simp, here⟩
    | inr there =>
      obtain ⟨earlier, isEarlier, same⟩ := ih there
      exact ⟨earlier, List.mem_append_left _ isEarlier, same⟩

/-- No id is written twice. -/
theorem once_writeAll (values : List T) (id : Bson) :
    ((writeAll model [] values).filter (named id)).length ≤ 1 := by
  induction values using List.reverseRecOn with
  | nil => exact Nat.zero_le _
  | append_singleton before value ih =>
    obtain ⟨own, found, itself⟩ := model.identified value
    have asked : named id (model.document value) = id.sameId own := named_of_get found
    rw [writeAll_append]
    simp only [writeAll, List.foldl_cons, List.foldl_nil, found, Option.getD_some] at ih ⊢
    cases here : named id (model.document value) with
    | true =>
      have isOwn := Bson.eq_of_sameId (asked.symm.trans here)
      subst isOwn
      rw [filter_replace_self here ih]
      exact Nat.le_refl 1
    | false =>
      rw [filter_replace_other here]
      · exact ih
      · intro document same
        rw [named_of_get (get_of_named same), ← asked, here]

theorem loadModel_written {collection : Collection} {values : List T} {id : Bson} {value : T}
    (last : lastSaved model id values = some value) :
    loadModel model (writeAll model collection values) id
      = some <$> model.fromBson (.document (model.document value)) := by
  simp only [loadModel, find_writeAll, last, Option.map_some, Option.some_or]

theorem loadModel_unwritten {collection : Collection} {values : List T} {id : Bson}
    (never : lastSaved model id values = none) :
    loadModel model (writeAll model collection values) id = loadModel model collection id := by
  simp only [loadModel, find_writeAll, never, Option.map_none, Option.none_or]

end

/-! ## The stores -/

theorem StoreCall.Possible.subset {T : Type} {call : StoreCall T} (possible : call.Possible) :
    ∀ value ∈ call.applied, value ∈ call.values := by
  intro value member
  cases call with
  | save saved answer =>
    simp only [applied] at member
    split at member
    next => exact member
    next => cases member
  | saveBatch values applied ok =>
    cases ok with
    | true => exact (show applied.Perm values from possible).subset member
    | false => exact (show applied.Subperm values from possible).subset member

/-- A command that succeeds has written every model. -/
theorem StoreCall.Possible.complete {T : Type} {call : StoreCall T} (possible : call.Possible)
    (ok : call.succeeds = true) : ∀ value ∈ call.values, value ∈ call.applied := by
  intro value member
  cases call with
  | save saved answer =>
    have isOk : answer = .ok := of_decide_eq_true ok
    simp only [applied, isOk, Auth.Answer.applied, if_true]
    exact member
  | saveBatch values applied flag =>
    simp only [succeeds] at ok
    subst ok
    exact (show applied.Perm values from possible).symm.subset member

/-- What a store keeps of the calls: `reads` relates a model to what it is read back as. -/
structure Keeps {T E : Type} (model : BsonPathGetter T E) (reads : T → T → Prop) (before after : Collection)
    (calls : List (StoreCall T)) : Prop where
  written : ∀ id value, lastSaved model id (calls.flatMap StoreCall.applied) = some value →
    ∃ back, loadModel model after id = .ok (some back) ∧ reads value back
  unwritten : ∀ id, lastSaved model id (calls.flatMap StoreCall.applied) = none →
    loadModel model after id = loadModel model before id
  acknowledged : ∀ call ∈ calls, call.succeeds = true → ∀ value ∈ call.values, ∀ id,
    named id (model.document value) = true → ∃ back, loadModel model after id = .ok (some back)

theorem mem_of_lastSaved {T E : Type} {model : BsonPathGetter T E} {id : Bson} {written : List T} {value : T}
    (last : lastSaved model id written = some value) : value ∈ written :=
  List.mem_reverse.mp (List.mem_of_find?_eq_some last)

theorem named_of_lastSaved {T E : Type} {model : BsonPathGetter T E} {id : Bson} {written : List T} {value : T}
    (last : lastSaved model id written = some value) : named id (model.document value) = true :=
  List.find?_some (p := fun value => named id (model.document value)) last

theorem keeps_of_round_trip {T E : Type} (model : BsonPathGetter T E) {reads : T → T → Prop} (before : Collection)
    {calls : List (StoreCall T)} (possible : ∀ call ∈ calls, call.Possible)
    (round_trip : ∀ call ∈ calls, ∀ value ∈ call.values,
      ∃ back, model.fromBson (.document (model.document value)) = .ok back ∧ reads value back) :
    ∃ after, runStore model before calls = .ok after ∧ Keeps model reads before after calls := by
  have written : ∀ id value, lastSaved model id (calls.flatMap StoreCall.applied) = some value →
      ∃ back, loadModel model (writeAll model before (calls.flatMap StoreCall.applied)) id = .ok (some back)
        ∧ reads value back := by
    intro id value last
    obtain ⟨call, isCall, isApplied⟩ := List.mem_flatMap.mp (mem_of_lastSaved last)
    obtain ⟨back, read, same⟩ := round_trip call isCall value ((possible call isCall).subset value isApplied)
    exact ⟨back, by rw [loadModel_written model last, read]; rfl, same⟩
  refine ⟨_, runStore_eq model before calls, written, fun id never => loadModel_unwritten model never, ?_⟩
  intro call isCall ok value isValue id isNamed
  have isApplied : value ∈ calls.flatMap StoreCall.applied :=
    List.mem_flatMap.mpr ⟨call, isCall, (possible call isCall).complete ok value isValue⟩
  cases last : lastSaved model id (calls.flatMap StoreCall.applied) with
  | some later =>
    obtain ⟨back, loaded, _⟩ := written id later last
    exact ⟨back, loaded⟩
  | none =>
    have absent := List.find?_eq_none.mp last value (List.mem_reverse.mpr isApplied)
    exact absurd isNamed absent

section

variable {E : Type} (xmongo : Xmongo E) (hash : Logic.HashOrder)

/-- `AccountStore` -/
def accounts : BsonPathGetter Auth.AccountData E where
  document := accountDocument
  fromBson := accountFromBson xmongo
  identified := by
    intro value
    exact ⟨.string value.account, by simp [accountDocument], by simp [Bson.sameId]⟩

/-- `PlayerStore` -/
def players : BsonPathGetter PlayerData E where
  document := playerDocument hash
  fromBson := playerFromBson xmongo
  identified := by
    intro value
    exact ⟨.int64 value.gid, by simp [playerDocument], by simp [Bson.sameId]⟩

theorem named_player (gid : Int) (value : PlayerData) :
    named (.int64 gid) (playerDocument hash value) = decide (gid = value.gid) := by
  have own : (playerDocument hash value).get "_id" = some (.int64 value.gid) := by simp [playerDocument]
  rw [named_of_get own]
  rfl

/-- `PublicPlayerStore` -/
def publicPlayers : BsonPathGetter PublicPlayerData E where
  document := publicPlayerDocument
  fromBson := publicPlayerFromBson xmongo
  identified := by
    intro value
    exact ⟨.int64 value.gid, by simp [publicPlayerDocument], by simp [Bson.sameId]⟩

/-- No call is refused by its encoding, and every store returns what Mongo has applied
    last under an id, whatever order it applied a batch in and whatever failed before. -/
theorem stores_return_last_saved (before : Collection) :
    (∀ calls : List (StoreCall Auth.AccountData), (∀ call ∈ calls, call.Possible) →
      ∃ after, runStore (accounts xmongo) before calls = .ok after
        ∧ Keeps (accounts xmongo) (fun value back => back = value) before after calls)
    ∧ (∀ calls : List (StoreCall PlayerData), (∀ call ∈ calls, call.Possible) →
      (∀ call ∈ calls, ∀ value ∈ call.values, Typed value.items) →
      ∃ after, runStore (players xmongo hash) before calls = .ok after
        ∧ Keeps (players xmongo hash) PlayerData.Same before after calls)
    ∧ ∀ calls : List (StoreCall PublicPlayerData), (∀ call ∈ calls, call.Possible) →
      ∃ after, runStore (publicPlayers xmongo) before calls = .ok after
        ∧ Keeps (publicPlayers xmongo) (fun value back => back = storedPublicPlayer value) before after calls := by
  refine ⟨?_, ?_, ?_⟩
  · intro calls possible
    refine keeps_of_round_trip (accounts xmongo) before possible ?_
    intro _ _ value _
    exact ⟨value, account_round_trip xmongo value, rfl⟩
  · intro calls possible typed
    refine keeps_of_round_trip (players xmongo hash) before possible ?_
    intro call isCall value isValue
    exact player_round_trip xmongo hash (typed call isCall value isValue)
  · intro calls possible
    refine keeps_of_round_trip (publicPlayers xmongo) before possible ?_
    intro _ _ value _
    exact ⟨storedPublicPlayer value, publicPlayer_round_trip xmongo value, rfl⟩

end

/-- A player with three pieces of item 7, and one after two of them are used. -/
def threeOfItem7 : PlayerData := ⟨5, some ⟨5, "Player5", 1, 0, 0⟩, AList.singleton 7 3⟩

def oneOfItem7 : PlayerData := { threeOfItem7 with items := AList.singleton 7 1 }

theorem oneOfItem7_returned :
    ∃ after back, runStore (players Xmongo.strict .inserted) []
        [.save threeOfItem7 .ok, .save oneOfItem7 (.failed true), .save threeOfItem7 (.failed false)] = .ok after
      ∧ loadModel (players Xmongo.strict .inserted) after (.int64 5) = .ok (some back)
      ∧ back.items.lookup 7 = some 1 := by
  have typed : ∀ count : Int, Typed (AList.singleton 7 count) := by
    intro count itemId member
    have isSeven : itemId = 7 := List.mem_singleton.mp member
    rw [isSeven]
    decide
  obtain ⟨after, ran, keeps⟩ := (stores_return_last_saved Xmongo.strict .inserted []).2.1
    [.save threeOfItem7 .ok, .save oneOfItem7 (.failed true), .save threeOfItem7 (.failed false)]
    (by simp [StoreCall.Possible])
    (by simp [StoreCall.values, threeOfItem7, oneOfItem7, typed])
  obtain ⟨back, loaded, same⟩ := keeps.written (.int64 5) oneOfItem7 rfl
  exact ⟨after, back, ran, loaded, by rw [← same.items]; rfl⟩

end Xkk.Persist
