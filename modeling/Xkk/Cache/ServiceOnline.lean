import Xkk.Cache.Hash
import Xkk.Lib.Lease
import Xkk.Lib.Transition

/-! # How many players each instance has

Every Gate and every Logic publishes its number of players in Redis, in one hash
for each cluster and type of service, and renews the deadline of the hash with it.
Auth and the Gates read the numbers of the instances that discovery has told them
of.  A hash outlives an instance that has gone without a word for as long as
another instance of the type publishes.
-/

namespace Xkk.Cache

open Xkk.Lib

def TTL_REFRESH_COUNT : Nat := 3

structure ServiceOnlineCount where
  instanceId : Int
  onlineCount : Int
deriving DecidableEq, Repr

/-- In milliseconds; `none` where the source asserts. -/
def serviceOnlineTtl (refreshInterval : Nat) : Option Nat :=
  if refreshInterval = 0 then none else some (refreshInterval * TTL_REFRESH_COUNT)

def serviceOnlineKey (cluster : String) (serviceType : Int) : String :=
  "xkk:service:online:" ++ cluster ++ ":" ++ toString serviceType

/-- Redis, and what was published and deleted in it. -/
structure ServiceBoard where
  clock : Nat                                       -- milliseconds
  keys : String → Lease.Leased String String
  history : String → Int → List (Lease.Event Int Int)

namespace ServiceBoard

def empty : ServiceBoard := ⟨0, fun _ => Lease.replay [], fun _ _ => []⟩

/-- A command on one hash. -/
def command (s : ServiceBoard) (cluster : String) (serviceType : Int) (event : Lease.Event Int Int) :
    ServiceBoard :=
  let key := serviceOnlineKey cluster serviceType
  { s with
    keys := Function.update s.keys key ((s.keys key).apply (event.map toString toString))
    history := Function.update s.history cluster
      (Function.update (s.history cluster) serviceType (s.history cluster serviceType ++ [event])) }

/-- `HSET` and `EXPIRE`, in one transaction. -/
def publishServiceOnline (s : ServiceBoard) (cluster : String) (serviceType instanceId onlineCount : Int)
    (ttl : Nat) : Option ServiceBoard :=
  let ttlSeconds := ttl / 1000
  if 0 < instanceId ∧ 0 ≤ onlineCount ∧ 0 < ttlSeconds ∧ cluster ≠ "" ∧ 0 < serviceType then
    some (s.command cluster serviceType (.put s.clock instanceId onlineCount (ttlSeconds * 1000)))
  else none

/-- `HDEL`. -/
def deleteServiceOnline (s : ServiceBoard) (cluster : String) (serviceType instanceId : Int) :
    Option ServiceBoard :=
  if 0 < instanceId ∧ cluster ≠ "" ∧ 0 < serviceType then
    some (s.command cluster serviceType (.drop s.clock instanceId))
  else none

/-- What the client library makes of one value of `HMGET`. -/
def parseCount : Option String → Except String (Option Int)
  | none => .ok none
  | some value => match Decimal.parse 32 value with
    | some n => .ok (some n)
    | none => .error value

/-- `HMGET`; the whole answer is an error when one of the values is not an `i32`. -/
def loadServiceOnlineCounts (s : ServiceBoard) (cluster : String) (serviceType : Int) (instanceIds : List Int) :
    Option (Except String (List ServiceOnlineCount)) :=
  if instanceIds = [] then some (.ok [])
  else if cluster ≠ "" ∧ 0 < serviceType then
    let fields := (s.keys (serviceOnlineKey cluster serviceType)).read s.clock
    let values := instanceIds.mapM fun instanceId => parseCount (fields.lookup (toString instanceId))
    some (values.map fun values => (instanceIds.zip values).filterMap fun entry =>
      entry.2.map fun onlineCount => ⟨entry.1, onlineCount⟩)
  else none

inductive Label where
  | publish (cluster : String) (serviceType instanceId onlineCount : Int) (ttl : Nat)
  | delete (cluster : String) (serviceType instanceId : Int)
  | wait (milliseconds : Nat)
deriving DecidableEq, Repr

/-- An `onlineCount` is an `i32`. -/
def step (s : ServiceBoard) : Label → Option ServiceBoard
  | .publish cluster serviceType instanceId onlineCount ttl =>
    if Decimal.Fits 32 onlineCount then s.publishServiceOnline cluster serviceType instanceId onlineCount ttl
    else none
  | .delete cluster serviceType instanceId => s.deleteServiceOnline cluster serviceType instanceId
  | .wait milliseconds => some { s with clock := s.clock + milliseconds }

def system : System ServiceBoard Label := .ofFun (· = empty) step

/-! ## The keys -/

theorem colon_notMem (n : Int) : ':' ∉ (toString n).toList := by
  have noDigit : ∀ m : Nat, ':' ∉ Nat.toDigits 10 m := by
    intro m inside
    exact absurd (Nat.isDigit_of_mem_toDigits (by omega) (by omega) inside) (by decide)
  rw [Int.toString_eq_repr, Int.repr_eq_if]
  split
  · rw [Nat.toList_repr]
    exact noDigit n.toNat
  · rw [String.toList_append, Nat.toList_repr]
    simp only [List.mem_append, not_or]
    exact ⟨by simp, noDigit (-n).toNat⟩

/-- Two lists that are split at the last separator. -/
theorem split_at_last {α : Type} {separator : α} {name other digits more : List α} (last : separator ∉ digits)
    (otherLast : separator ∉ more) (same : name ++ separator :: digits = other ++ separator :: more) :
    name = other ∧ digits = more := by
  rcases List.append_eq_append_iff.mp same with ⟨middle, names, rest⟩ | ⟨middle, names, rest⟩
  · cases middle with
    | nil => exact ⟨by simp [names], (List.cons.inj rest).2⟩
    | cons head tail =>
      rw [(List.cons.inj rest).2] at last
      simp at last
  · cases middle with
    | nil => exact ⟨by simp [names], (List.cons.inj rest).2.symm⟩
    | cons head tail =>
      rw [(List.cons.inj rest).2] at otherLast
      simp at otherLast

theorem key_inj {scope cluster other : String} {number otherNumber : Int}
    (same : scope ++ cluster ++ ":" ++ toString number = scope ++ other ++ ":" ++ toString otherNumber) :
    cluster = other ∧ number = otherNumber := by
  have toList : ∀ (name : String) (n : Int), (scope ++ name ++ ":" ++ toString n).toList
      = scope.toList ++ (name.toList ++ ':' :: (toString n).toList) := by
    intro name n
    simp
  have texts := congrArg String.toList same
  rw [toList, toList] at texts
  obtain ⟨names, digits⟩ :=
    split_at_last (colon_notMem number) (colon_notMem otherNumber) (List.append_cancel_left texts)
  exact ⟨String.toList_inj.mp names, Decimal.toString_inj (String.toList_inj.mp digits)⟩

/-- The hashes of two clusters, or of two types, are apart. -/
theorem serviceOnlineKey_inj {cluster other : String} {serviceType otherType : Int}
    (same : serviceOnlineKey cluster serviceType = serviceOnlineKey other otherType) :
    cluster = other ∧ serviceType = otherType :=
  key_inj same

/-! ## What is read is what stands -/

variable {s t : ServiceBoard}

structure Kept (s : ServiceBoard) : Prop where
  replayed : ∀ cluster serviceType, s.keys (serviceOnlineKey cluster serviceType)
    = Lease.replay ((s.history cluster serviceType).map (.map toString toString))
  timed : ∀ cluster serviceType, Lease.Timed (s.history cluster serviceType) s.clock
  fits : ∀ cluster serviceType time instanceId onlineCount ttl,
    .put time instanceId onlineCount ttl ∈ s.history cluster serviceType → Decimal.Fits 32 onlineCount

theorem history_command (cluster : String) (serviceType : Int) (event : Lease.Event Int Int) (other : String)
    (otherType : Int) : (s.command cluster serviceType event).history other otherType
      = if other = cluster ∧ otherType = serviceType then s.history cluster serviceType ++ [event]
        else s.history other otherType := by
  by_cases sameCluster : other = cluster
  · subst sameCluster
    by_cases sameType : otherType = serviceType
    · subst sameType
      simp [command]
    · simp [command, sameType]
  · simp [command, sameCluster]

theorem Kept.command (kept : Kept s) {cluster : String} {serviceType : Int} {event : Lease.Event Int Int}
    (now : event.time = s.clock)
    (fits : ∀ time instanceId onlineCount ttl, event = .put time instanceId onlineCount ttl →
      Decimal.Fits 32 onlineCount) : Kept (s.command cluster serviceType event) where
  replayed := by
    intro other otherType
    rw [history_command]
    split
    next same =>
      obtain ⟨rfl, rfl⟩ := same
      simp [ServiceBoard.command, kept.replayed, Lease.replay_append]
    next differ =>
      have keys : serviceOnlineKey other otherType ≠ serviceOnlineKey cluster serviceType :=
        fun equal => differ (serviceOnlineKey_inj equal)
      simp [ServiceBoard.command, Function.update_of_ne keys, kept.replayed]
  timed := by
    intro other otherType
    rw [history_command]
    split
    next =>
      have timed := kept.timed cluster serviceType
      change Lease.Timed _ s.clock
      rw [← now] at timed ⊢
      exact timed.append
    next => exact kept.timed other otherType
  fits := by
    intro other otherType time instanceId onlineCount ttl inside
    rw [history_command] at inside
    split at inside
    next =>
      rcases List.mem_append.mp inside with old | last
      · exact kept.fits cluster serviceType time instanceId onlineCount ttl old
      · exact fits time instanceId onlineCount ttl (List.mem_singleton.mp last).symm
    next => exact kept.fits other otherType time instanceId onlineCount ttl inside

theorem kept_reach (reached : system.Reach System.Any s) : Kept s := by
  refine reached.inv ?_ ?_
  · rintro s rfl
    exact ⟨by simp [empty], fun _ _ => ⟨by simp [empty], by simp [empty]⟩, by simp [empty]⟩
  · intro s l t kept _ taken
    cases l with
    | publish cluster serviceType instanceId onlineCount ttl =>
      simp only [system, System.ofFun, step, Option.ite_none_right_eq_some] at taken
      obtain ⟨fits, taken⟩ := taken
      simp only [publishServiceOnline, Option.ite_none_right_eq_some, Option.some.injEq] at taken
      obtain ⟨_, rfl⟩ := taken
      apply kept.command rfl
      intro _ _ _ _ same
      cases same
      exact fits
    | delete cluster serviceType instanceId =>
      simp only [system, System.ofFun, step, deleteServiceOnline, Option.ite_none_right_eq_some,
        Option.some.injEq] at taken
      obtain ⟨_, rfl⟩ := taken
      exact kept.command rfl (by simp)
    | wait milliseconds =>
      obtain rfl := Option.some.inj taken
      refine ⟨kept.replayed, ?_, kept.fits⟩
      intro cluster serviceType
      exact (kept.timed cluster serviceType).later (Nat.le_add_right _ _)

/-- A field of the hash is the text of the number that stands for the instance. -/
theorem Kept.lookup (kept : Kept s) (cluster : String) (serviceType instanceId : Int) (text : String) :
    ((s.keys (serviceOnlineKey cluster serviceType)).read s.clock).lookup (toString instanceId) = some text ↔
      ∃ onlineCount : Int, text = toString onlineCount
        ∧ Lease.Standing (s.history cluster serviceType) s.clock instanceId onlineCount := by
  have injective : Function.Injective (toString : Int → String) := fun _ _ => Decimal.toString_inj
  rw [kept.replayed, Lease.lookup_replay (kept.timed cluster serviceType).map, Lease.standing_map injective]

theorem Kept.standing_fits (kept : Kept s) {cluster : String} {serviceType instanceId onlineCount : Int}
    (standing : Lease.Standing (s.history cluster serviceType) s.clock instanceId onlineCount) :
    Decimal.Fits 32 onlineCount := by
  obtain ⟨before, time, ttl, after, split, _⟩ := standing
  exact kept.fits cluster serviceType time instanceId onlineCount ttl (by simp [split])

/-- The number that the hash has for an instance. -/
def shown (s : ServiceBoard) (cluster : String) (serviceType instanceId : Int) : Option Int :=
  (((s.keys (serviceOnlineKey cluster serviceType)).read s.clock).lookup (toString instanceId)).bind
    (Decimal.parse 32)

theorem Kept.shown_iff (kept : Kept s) {cluster : String} {serviceType instanceId onlineCount : Int} :
    s.shown cluster serviceType instanceId = some onlineCount ↔
      Lease.Standing (s.history cluster serviceType) s.clock instanceId onlineCount := by
  rw [shown, Option.bind_eq_some_iff]
  constructor
  · rintro ⟨text, found, parsed⟩
    obtain ⟨n, rfl, standing⟩ := (kept.lookup cluster serviceType instanceId text).mp found
    rw [Decimal.parse_toString (kept.standing_fits standing)] at parsed
    exact Option.some.inj parsed ▸ standing
  · intro standing
    exact ⟨toString onlineCount, (kept.lookup _ _ _ _).mpr ⟨onlineCount, rfl, standing⟩,
      Decimal.parse_toString (kept.standing_fits standing)⟩

theorem Kept.parseCount (kept : Kept s) (cluster : String) (serviceType instanceId : Int) :
    ServiceBoard.parseCount
      (((s.keys (serviceOnlineKey cluster serviceType)).read s.clock).lookup (toString instanceId))
      = .ok (s.shown cluster serviceType instanceId) := by
  rw [shown]
  cases found : ((s.keys (serviceOnlineKey cluster serviceType)).read s.clock).lookup (toString instanceId) with
  | none => rfl
  | some text =>
    obtain ⟨n, rfl, standing⟩ := (kept.lookup cluster serviceType instanceId text).mp found
    rw [Option.bind_some, ServiceBoard.parseCount, Decimal.parse_toString (kept.standing_fits standing)]

theorem mapM_of_ok {f : Int → Except String (Option Int)} {g : Int → Option Int} (ok : ∀ n, f n = .ok (g n))
    (numbers : List Int) : numbers.mapM f = .ok (numbers.map g) := by
  induction numbers with
  | nil => rfl
  | cons head tail ih =>
    rw [List.mapM_cons, ok, ih]
    rfl

/-- A load never fails, and reports the instances that were asked for and have a
    number, in the order of the request. -/
theorem Kept.load_eq (kept : Kept s) {cluster : String} {serviceType : Int} (named : cluster ≠ "")
    (positive : 0 < serviceType) (instanceIds : List Int) :
    s.loadServiceOnlineCounts cluster serviceType instanceIds
      = some (.ok (instanceIds.filterMap fun instanceId =>
        (s.shown cluster serviceType instanceId).map fun onlineCount => ⟨instanceId, onlineCount⟩)) := by
  have zipped : ∀ (ids : List Int) (g : Int → Option Int),
      ((ids.zip (ids.map g)).filterMap fun entry =>
        entry.2.map fun onlineCount => (⟨entry.1, onlineCount⟩ : ServiceOnlineCount))
        = ids.filterMap fun instanceId => (g instanceId).map fun onlineCount => ⟨instanceId, onlineCount⟩ := by
    intro ids g
    induction ids with
    | nil => rfl
    | cons head tail ih => simp only [List.map_cons, List.zip_cons_cons, List.filterMap_cons, ih]
  unfold loadServiceOnlineCounts
  by_cases none : instanceIds = []
  · subst none
    rfl
  · rw [if_neg none, if_pos ⟨named, positive⟩]
    simp only [mapM_of_ok (kept.parseCount cluster serviceType)]
    exact congrArg (fun counts => some (Except.ok counts)) (zipped instanceIds _)

theorem reported_sublist (shown : Int → Option Int) (instanceIds : List Int) :
    ((instanceIds.filterMap fun instanceId => (shown instanceId).map fun onlineCount =>
      (⟨instanceId, onlineCount⟩ : ServiceOnlineCount)).map (·.instanceId)).Sublist instanceIds := by
  induction instanceIds with
  | nil => exact .slnil
  | cons head tail ih =>
    cases here : shown head with
    | none => simpa [here] using ih.cons head
    | some onlineCount => simpa [here] using ih

/-- A put of the history, with what came after it. -/
theorem timed_split {before after : List (Lease.Event Int Int)} {event : Lease.Event Int Int} {now : Nat}
    (timed : Lease.Timed (before ++ event :: after) now) :
    Lease.Timed after now ∧ ∀ later ∈ after, event.time ≤ later.time := by
  obtain ⟨_, ordered, _⟩ := List.pairwise_append.mp timed.ordered
  obtain ⟨first, rest⟩ := List.pairwise_cons.mp ordered
  refine ⟨⟨rest, ?_⟩, first⟩
  intro later inside
  exact timed.past later (List.mem_append_right _ (List.mem_cons_of_mem _ inside))

/-- A load reports exactly the last numbers that were published and not deleted, of
    the instances that it asks for and in their order, as long as no deadline of the
    hash has passed.  Where all the instances refresh at one interval, three of which
    are whole seconds, a number is good for three of them, whatever the others do. -/
theorem load_reports_last_published (reached : system.Reach System.Any s) {cluster : String} {serviceType : Int}
    (named : cluster ≠ "") (positive : 0 < serviceType) (instanceIds : List Int) :
    ∃ counts, s.loadServiceOnlineCounts cluster serviceType instanceIds = some (.ok counts)
      ∧ (counts.map (·.instanceId)).Sublist instanceIds
      ∧ (∀ count : ServiceOnlineCount, count ∈ counts ↔ count.instanceId ∈ instanceIds
        ∧ Lease.Standing (s.history cluster serviceType) s.clock count.instanceId count.onlineCount)
      ∧ ∀ refreshInterval ttl, serviceOnlineTtl refreshInterval = some ttl →
        (∀ event ∈ s.history cluster serviceType, event.Lasts ttl) →
        ∀ before time instanceId onlineCount after,
          s.history cluster serviceType = before ++ .put time instanceId onlineCount ttl :: after →
          (∀ event ∈ after, event.key ≠ instanceId) → s.clock < time + 3 * refreshInterval →
          instanceId ∈ instanceIds → ⟨instanceId, onlineCount⟩ ∈ counts := by
  have kept := kept_reach reached
  have reports : ∀ count : ServiceOnlineCount, count ∈ (instanceIds.filterMap fun instanceId =>
        (s.shown cluster serviceType instanceId).map fun onlineCount =>
          (⟨instanceId, onlineCount⟩ : ServiceOnlineCount)) ↔
      count.instanceId ∈ instanceIds
      ∧ Lease.Standing (s.history cluster serviceType) s.clock count.instanceId count.onlineCount := by
    intro count
    rw [List.mem_filterMap, ← kept.shown_iff]
    constructor
    · rintro ⟨instanceId, asked, isCount⟩
      obtain ⟨onlineCount, shown, rfl⟩ := Option.map_eq_some_iff.mp isCount
      exact ⟨asked, shown⟩
    · rintro ⟨asked, shown⟩
      exact ⟨count.instanceId, asked, by rw [shown]; rfl⟩
  refine ⟨_, kept.load_eq named positive instanceIds, ?_, reports, ?_⟩
  · exact reported_sublist (s.shown cluster serviceType) instanceIds
  · intro refreshInterval ttl isTtl uniform before time instanceId onlineCount after split untouched fresh asked
    obtain rfl : refreshInterval * TTL_REFRESH_COUNT = ttl := by
      simp only [serviceOnlineTtl, Option.ite_none_left_eq_some, Option.some.injEq] at isTtl
      exact isTtl.2
    rw [reports]
    obtain ⟨timed, later⟩ := timed_split (split ▸ kept.timed cluster serviceType)
    refine ⟨asked, before, time, _, after, split, untouched, ?_⟩
    apply Lease.unbroken_of_uniform timed later
    · intro event inside
      exact uniform event (by simp [split, inside])
    · change s.clock < time + refreshInterval * 3
      omega

/-- The second Gate starts three seconds after the first one, which then falls silent. -/
def silentGate : List Label :=
  [.publish "local" 2 1 40 9000, .wait 3000, .publish "local" 2 2 7 9000, .wait 3000,
    .publish "local" 2 2 8 9000, .wait 6000]

/-- Its number stands for as long as the other one publishes. -/
theorem silentGate_reported : ∃ s : ServiceBoard, s.clock = 12000
    ∧ s.loadServiceOnlineCounts "local" 2 [2, 3, 1] = some (.ok [⟨2, 8⟩, ⟨1, 40⟩])
    ∧ Lease.Standing (s.history "local" 2) s.clock 1 40 := by
  have run : ∃ s, System.follow System.Any step empty silentGate = some s
      ∧ s.clock = 12000 ∧ s.loadServiceOnlineCounts "local" 2 [2, 3, 1] = some (.ok [⟨2, 8⟩, ⟨1, 40⟩]) := by
    decide +kernel
  obtain ⟨s, followed, clock, loaded⟩ := run
  have named : "local" ≠ "" := by decide
  have positive : (0 : Int) < 2 := by decide
  obtain ⟨counts, reported, _, exact, _⟩ :=
    load_reports_last_published (System.reach_of_follow rfl followed) named positive [2, 3, 1]
  obtain rfl : counts = [⟨2, 8⟩, ⟨1, 40⟩] := Except.ok.inj (Option.some.inj (reported.symm.trans loaded))
  exact ⟨s, clock, loaded, ((exact ⟨1, 40⟩).mp (by decide)).2⟩

end ServiceBoard

end Xkk.Cache
