import Xkk.Persist.Stores

/-! # Profiles of many players

`gamer_info` answers the profiles of up to a hundred players with one query.
The cursor returns the documents in an order of its own; the answer is in the
order of the request.  Over any calls that Logic has made to the store, it is
made of the profiles that were written last.
-/

namespace Xkk.Query

open Xkk.Lib Xkk.Lib.Documents Xkk.Persist Xkk.Protocol

abbrev Profiles := Table.Map Int PlayerInfo

/-- The order in which a cursor returns the documents that it finds. -/
structure Cursor where
  order : List BsonDocument → List BsonDocument
  perm : ∀ l, (order l).Perm l

def Cursor.stored : Cursor := ⟨id, fun _ => .refl _⟩

variable {E : Type} (xmongo : Xmongo E)

/-! ## `PlayerStore::load_profiles` -/

/-- The loop over the cursor. -/
def collectProfiles : List BsonDocument → Profiles → Except E Profiles
  | [], loaded => .ok loaded
  | document :: rest, loaded => do
    let player ← playerFromBson xmongo (.document document)
    match player.profile with
    | some profile => collectProfiles rest (loaded.insert player.gid profile)
    | none => collectProfiles rest loaded

/-- A profile is removed when it is taken, so it is answered once. -/
def takeProfiles : List Int → Profiles → List PlayerInfo
  | [], _ => []
  | gid :: rest, loaded =>
    match loaded.lookup gid with
    | some profile => profile :: takeProfiles rest (loaded.erase gid)
    | none => takeProfiles rest loaded

/-- The filter `_id ∈ gids`. -/
def requested (gids : List Int) (document : BsonDocument) : Bool := gids.any fun gid => named (.int64 gid) document

def loadProfiles (cursor : Cursor) (collection : Collection) (gids : List Int) : Except E (List PlayerInfo) :=
  if gids.isEmpty then .ok []
  else do
    let loaded ← collectProfiles xmongo (cursor.order (collection.filter (requested gids))) ∅
    return takeProfiles gids loaded

/-! ## `QueryApi::gamer_info` -/

def MAX_GAMER_IDS : Nat := 100

structure GamerInfoRsp where
  status : Option Status
  players : List PlayerInfo
deriving DecidableEq, Repr

def gamerInfoError (code : Int) (message : String) : GamerInfoRsp := ⟨some (errorStatus code message), []⟩

def validGamerIds (gamerIds : List Int) : Option (List Int) :=
  if gamerIds.isEmpty ∨ gamerIds.length > MAX_GAMER_IDS then none
  else if gamerIds.all (· > 0) ∧ gamerIds.Nodup then some gamerIds
  else none

/-- `permits` are the free request slots; without a cursor the query has failed. -/
def gamerInfo (cursor : Option Cursor) (permits : Nat) (collection : Collection) (gamerIds : List Int) :
    GamerInfoRsp :=
  if permits = 0 then gamerInfoError Code.OVERLOADED "Query request capacity exhausted"
  else
    match validGamerIds gamerIds with
    | none => gamerInfoError Code.INVALID_ARGUMENT "invalid gamer ids"
    | some gamerIds =>
      match cursor.map fun cursor => loadProfiles xmongo cursor collection gamerIds with
      | some (.ok players) => ⟨some okStatus, players⟩
      | some (.error _) | none => gamerInfoError Code.INTERNAL "player load failed"

/-! ## The answer -/

/-- Every profile is answered in its place when the request names no player twice. -/
theorem takeProfiles_eq {gids : List Int} (nodup : gids.Nodup) (loaded : Profiles) :
    takeProfiles gids loaded = gids.filterMap fun gid => loaded.lookup gid := by
  induction gids generalizing loaded with
  | nil => rfl
  | cons gid rest ih =>
    rw [List.nodup_cons] at nodup
    cases found : loaded.lookup gid with
    | none => simp only [takeProfiles, found, List.filterMap_cons, ih nodup.2]
    | some profile =>
      have same : (rest.filterMap fun other => (loaded.erase gid).lookup other)
          = rest.filterMap fun other => loaded.lookup other := by
        apply List.filterMap_congr
        intro other member
        have differ : other ≠ gid := fun isGid => nodup.1 (isGid ▸ member)
        exact AList.lookup_erase_ne differ
      simp only [takeProfiles, found, List.filterMap_cons, ih nodup.2, same]

section

variable (hash : Logic.HashOrder)

/-- Documents of different players are collected by their gids. -/
theorem collectProfiles_eq {values : List PlayerData} (typed : ∀ value ∈ values, Typed value.items)
    (nodup : (values.map (·.gid)).Nodup) (loaded : Profiles) :
    ∃ after, collectProfiles xmongo (values.map (playerDocument hash)) loaded = .ok after
      ∧ ∀ gid, after.lookup gid
        = ((values.find? fun value => value.gid = gid).bind (·.profile)).or (loaded.lookup gid) := by
  induction values generalizing loaded with
  | nil => exact ⟨loaded, rfl, fun _ => rfl⟩
  | cons value rest ih =>
    rw [List.map_cons, List.nodup_cons] at nodup
    obtain ⟨back, read, same⟩ := player_round_trip xmongo hash (typed value List.mem_cons_self)
    have later := ih (fun value member => typed value (List.mem_cons_of_mem _ member)) nodup.2
    have absent : rest.find? (fun other => other.gid = value.gid) = none := by
      rw [List.find?_eq_none]
      intro other member isGid
      exact nodup.1 (of_decide_eq_true isGid ▸ List.mem_map_of_mem member)
    cases profile : value.profile with
    | none =>
      obtain ⟨after, collected, found⟩ := later loaded
      refine ⟨after, ?_, ?_⟩
      · simp only [List.map_cons, collectProfiles, read, ok_bind, ← same.profile, profile, collected]
      · intro gid
        rw [found, List.find?_cons]
        by_cases isGid : value.gid = gid
        · subst isGid
          simp [absent, profile]
        · simp [isGid]
    | some info =>
      obtain ⟨after, collected, found⟩ := later (loaded.insert back.gid info)
      refine ⟨after, ?_, ?_⟩
      · simp only [List.map_cons, collectProfiles, read, ok_bind, ← same.profile, profile, collected]
      · intro gid
        rw [found, List.find?_cons, ← same.gid]
        by_cases isGid : value.gid = gid
        · subst isGid
          simp [absent, profile]
        · rw [AList.lookup_insert_ne (Ne.symm isGid)]
          simp [isGid]

/-- A document says which profile it was made from. -/
theorem profile_of_document {value other : PlayerData} (typed : Typed value.items) (typed' : Typed other.items)
    (same : playerDocument hash value = playerDocument hash other) : value.profile = other.profile := by
  obtain ⟨back, read, isValue⟩ := player_round_trip Xmongo.strict hash typed
  obtain ⟨back', read', isOther⟩ := player_round_trip Xmongo.strict hash typed'
  rw [same, read', Except.ok.injEq] at read
  rw [isValue.profile, isOther.profile, read]

/-- Documents that were written are the documents of players. -/
theorem exists_values {documents : List BsonDocument} {written : List PlayerData}
    (were : ∀ document ∈ documents, ∃ value ∈ written, document = playerDocument hash value) :
    ∃ values : List PlayerData, documents = values.map (playerDocument hash)
      ∧ ∀ value ∈ values, value ∈ written := by
  induction documents with
  | nil => exact ⟨[], rfl, by simp⟩
  | cons document rest ih =>
    obtain ⟨value, isWritten, same⟩ := were document List.mem_cons_self
    obtain ⟨values, others, all⟩ := ih fun document member => were document (List.mem_cons_of_mem _ member)
    refine ⟨value :: values, by rw [List.map_cons, same, others], ?_⟩
    intro v member
    cases List.mem_cons.mp member with
    | inl here => exact here ▸ isWritten
    | inr later => exact all v later

/-- The profile that was written last for a player. -/
def lastProfile (written : List PlayerData) (gid : Int) : Option PlayerInfo :=
  (lastSaved (players xmongo hash) (.int64 gid) written).bind (·.profile)

/-- The documents that the cursor returns belong to different players. -/
theorem nodup_of_once {values : List PlayerData}
    (once : ∀ gid, ((values.map (playerDocument hash)).filter (named (.int64 gid))).length ≤ 1) :
    (values.map (·.gid)).Nodup := by
  rw [List.nodup_iff_count_le_one]
  intro gid
  have counted : (values.map (·.gid)).count gid
      = ((values.map (playerDocument hash)).filter (named (.int64 gid))).length := by
    rw [List.count, List.countP_map, ← List.countP_eq_length_filter, List.countP_map]
    apply List.countP_congr
    intro value _
    simp only [Function.comp_apply, named_player, beq_iff_eq, decide_eq_true_eq]
    exact eq_comm
  rw [counted]
  exact once gid

theorem collected (cursor : Cursor) {written : List PlayerData} (typed : ∀ value ∈ written, Typed value.items)
    (gids : List Int) :
    ∃ loaded, collectProfiles xmongo
        (cursor.order ((writeAll (players xmongo hash) [] written).filter (requested gids))) ∅ = .ok loaded
      ∧ ∀ gid ∈ gids, loaded.lookup gid = lastProfile xmongo hash written gid := by
  have perm := cursor.perm ((writeAll (players xmongo hash) [] written).filter (requested gids))
  have once : ∀ gid, (((writeAll (players xmongo hash) [] written).filter (requested gids)).filter
      (named (.int64 gid))).length ≤ 1 := by
    intro gid
    exact Nat.le_trans (List.filter_sublist.filter _).length_le (once_writeAll (players xmongo hash) written _)
  have were : ∀ document ∈ cursor.order ((writeAll (players xmongo hash) [] written).filter (requested gids)),
      ∃ value ∈ written, document = playerDocument hash value := by
    intro document member
    exact mem_writeAll (players xmongo hash) (List.mem_filter.mp (perm.mem_iff.mp member)).1
  obtain ⟨values, same, all⟩ := exists_values hash were
  have nodup : (values.map (·.gid)).Nodup := by
    apply nodup_of_once hash
    intro gid
    rw [← same, (perm.filter _).length_eq]
    exact once gid
  obtain ⟨loaded, collect, found⟩ := collectProfiles_eq xmongo hash (fun value member => typed value (all value member))
    nodup ∅
  refine ⟨loaded, by rw [same, collect], ?_⟩
  intro gid isRequested
  have documents : (values.find? fun value => value.gid = gid).map (playerDocument hash)
      = (lastSaved (players xmongo hash) (.int64 gid) written).map (playerDocument hash) := by
    calc (values.find? fun value => value.gid = gid).map (playerDocument hash)
        = (values.map (playerDocument hash)).find? (named (.int64 gid)) := by
          rw [List.find?_map]
          congr 2
          funext value
          simp only [Function.comp_apply, named_player, decide_eq_decide]
          exact eq_comm
      _ = ((writeAll (players xmongo hash) [] written).filter (requested gids)).find? (named (.int64 gid)) := by
          rw [← same]
          exact find_perm perm (once gid)
      _ = (writeAll (players xmongo hash) [] written).find? (named (.int64 gid)) := by
          rw [List.find?_filter]
          congr 1
          funext document
          cases isNamed : named (.int64 gid) document with
          | false => simp
          | true =>
            have asked : requested gids document = true := List.any_eq_true.mpr ⟨gid, isRequested, isNamed⟩
            simp [asked]
      _ = (lastSaved (players xmongo hash) (.int64 gid) written).map (playerDocument hash) := by
          rw [find_writeAll, List.find?_nil, Option.or_none]
          rfl
  rw [found, AList.lookup_empty, Option.or_none, lastProfile]
  cases value : values.find? fun value => value.gid = gid with
  | none =>
    rw [value, Option.map_none, eq_comm, Option.map_eq_none_iff] at documents
    rw [documents]
  | some value' =>
    rw [value, Option.map_some, eq_comm, Option.map_eq_some_iff] at documents
    obtain ⟨last, isLast, sameDocument⟩ := documents
    rw [isLast]
    exact profile_of_document hash (typed _ (all _ (List.mem_of_find?_eq_some value)))
      (typed _ (mem_of_lastSaved isLast)) sameDocument.symm

theorem loadProfiles_eq (cursor : Cursor) {written : List PlayerData}
    (typed : ∀ value ∈ written, Typed value.items) {gids : List Int} (nodup : gids.Nodup) :
    loadProfiles xmongo cursor (writeAll (players xmongo hash) [] written) gids
      = .ok (gids.filterMap (lastProfile xmongo hash written)) := by
  cases empty : gids.isEmpty with
  | true => rw [loadProfiles, empty, if_pos rfl, List.isEmpty_iff.mp empty]; rfl
  | false =>
    obtain ⟨loaded, collect, found⟩ := collected xmongo hash cursor typed gids
    rw [loadProfiles, empty, if_neg Bool.false_ne_true, collect, ok_bind, pure_ok, takeProfiles_eq nodup]
    congr 1
    apply List.filterMap_congr
    intro gid member
    exact found gid member

/-- A request that is answered with players. -/
structure Valid (gamerIds : List Int) : Prop where
  nonempty : gamerIds ≠ []
  few : gamerIds.length ≤ MAX_GAMER_IDS
  positive : ∀ gid ∈ gamerIds, 0 < gid
  different : gamerIds.Nodup

theorem validGamerIds_of_valid {gamerIds : List Int} (valid : Valid gamerIds) :
    validGamerIds gamerIds = some gamerIds := by
  have size : ¬ (gamerIds.isEmpty = true ∨ gamerIds.length > MAX_GAMER_IDS) := by
    rw [List.isEmpty_iff]
    rintro (none | many)
    · exact valid.nonempty none
    · exact absurd valid.few (Nat.not_le.mpr many)
  have ids : gamerIds.all (· > 0) = true ∧ gamerIds.Nodup := by
    refine ⟨List.all_eq_true.mpr ?_, valid.different⟩
    intro gid member
    exact decide_eq_true (valid.positive gid member)
  rw [validGamerIds, if_neg size, if_pos ids]

theorem validGamerIds_of_not_valid {gamerIds : List Int} (invalid : ¬ Valid gamerIds) :
    validGamerIds gamerIds = none := by
  rw [validGamerIds]
  split
  next => rfl
  next size =>
    rw [List.isEmpty_iff, not_or, Nat.not_lt] at size
    rw [if_neg]
    rintro ⟨positive, different⟩
    refine invalid ⟨size.1, size.2, ?_, different⟩
    intro gid member
    exact of_decide_eq_true (List.all_eq_true.mp positive gid member)

/-- With a free slot and a working store, a valid request is answered with the
    profiles that were written last, in the order of the request, and any other
    request is refused. -/
theorem gamer_info_reports_last_saved (cursor : Cursor) {permits : Nat} (free : permits ≠ 0)
    {calls : List (StoreCall PlayerData)} (possible : ∀ call ∈ calls, call.Possible)
    (typed : ∀ call ∈ calls, ∀ value ∈ call.values, Typed value.items) {after : Collection}
    (ran : runStore (players xmongo hash) [] calls = .ok after) (gamerIds : List Int) :
    (Valid gamerIds → gamerInfo xmongo (some cursor) permits after gamerIds
      = ⟨some okStatus, gamerIds.filterMap (lastProfile xmongo hash (calls.flatMap StoreCall.applied))⟩)
    ∧ (¬ Valid gamerIds → gamerInfo xmongo (some cursor) permits after gamerIds
      = ⟨some (errorStatus Code.INVALID_ARGUMENT "invalid gamer ids"), []⟩) := by
  rw [runStore_eq, Except.ok.injEq] at ran
  subst ran
  have applied : ∀ value ∈ calls.flatMap StoreCall.applied, Typed value.items := by
    intro value member
    obtain ⟨call, isCall, isApplied⟩ := List.mem_flatMap.mp member
    exact typed call isCall value ((possible call isCall).subset value isApplied)
  refine ⟨?_, ?_⟩
  · intro valid
    have profiles := loadProfiles_eq xmongo hash cursor applied valid.different
    simp only [gamerInfo, free, if_false, validGamerIds_of_valid valid, Option.map_some, profiles]
  · intro invalid
    simp only [gamerInfo, free, if_false, validGamerIds_of_not_valid invalid, gamerInfoError]

end

theorem two_players_reported :
    ∃ after, runStore (players Xmongo.strict .inserted) []
        [.saveBatch [⟨5, some ⟨5, "a", 1, 0, 0⟩, ∅⟩, ⟨6, some ⟨6, "b", 1, 0, 0⟩, ∅⟩]
          [⟨6, some ⟨6, "b", 1, 0, 0⟩, ∅⟩, ⟨5, some ⟨5, "a", 1, 0, 0⟩, ∅⟩] true] = .ok after
      ∧ gamerInfo Xmongo.strict (some .stored) 1 after [6, 7, 5]
        = ⟨some okStatus, [⟨6, "b", 1, 0, 0⟩, ⟨5, "a", 1, 0, 0⟩]⟩ := by
  have empty : Typed ∅ := fun itemId member => absurd member (AList.notMem_empty itemId)
  refine ⟨_, runStore_eq _ _ _, ?_⟩
  refine ((gamer_info_reports_last_saved Xmongo.strict .inserted .stored Nat.one_ne_zero ?_ ?_
    (runStore_eq _ _ _) [6, 7, 5]).1 ?_).trans rfl
  · simpa [StoreCall.Possible] using List.Perm.swap _ _ _
  · simp [StoreCall.values, empty]
  · exact ⟨by decide, by decide, by decide, by decide⟩

end Xkk.Query
