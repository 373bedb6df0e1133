import Xkk.Cache.Online
import Xkk.Logic.Items
import Xkk.Public.Mail

/-! # Claiming a mail across two services

`MailService::claim` marks the mails in its own section and then asks Logic to
add the attachments to the player's items.  What Redis, the network and the
runtime of Logic do in between is `ClaimEnv`.

Logic has applied the attachments when it has accepted the request and every count
has grown by what they come to.  `Grantable` is the condition under which a mail
that ends up claimed has its attachments applied.
-/

namespace Xkk.Public

open Xkk.Protocol Xkk.Cache Xkk.Logic

/-! ## The request at Logic -/

/-- What the runtime of Logic does with the command. -/
inductive Handling where
  | rejected (reason : RejectReason)
  | failed (error : LogicCallError PlayerError)        -- before `add_items` has run
  | abandoned                                          -- after it, by a stop of the runtime
  | completed (persistence : Except PlayerError Unit)

namespace Handling

def runs : Handling → Bool
  | .rejected _ | .failed _ => false
  | .abandoned | .completed _ => true

def outcome {R : Type} (value : R) : Handling → Except RejectReason (Outcome R PlayerError)
  | .rejected reason => .error reason
  | .failed error => .ok (.failed error)
  | .abandoned => .ok (.failed .runtimeStopped)
  | .completed persistence => .ok (.completed value persistence)

end Handling

/-- The handler of `AddItemsReq`. -/
def addItemsReq (hash : HashOrder) (logic : PlayerState) (gid : Int) (head : RpcHead) (items : List Item)
    (handling : Handling) : PlayerState.AddItemsRsp × PlayerState :=
  if gid ≤ 0 ∨ head.gid ≠ 0 ∧ head.gid ≠ UInt64.ofNat gid.toNat then
    (⟨some (errorStatus Code.INVALID_ARGUMENT "invalid add-items route"), []⟩, logic)
  else
    let (value, after) := logic.addItems hash items
    let response := match awaitLogic (handling.outcome value) with
      | .ok response => response
      | .error status => ⟨some status, []⟩
    (response, if handling.runs then after else logic)

/-! ## The claim -/

structure ClaimEnv where
  available : Bool                                  -- the cache has the player's data
  online : Except OnlineError (Option OnlineData)   -- what `load_online` answers
  delivered : Bool                                  -- the request reaches Logic
  handling : Handling
  answered : Bool                                   -- its response arrives in time
  hash : HashOrder

structure MailClaimRsp where
  status : Option Status
  mailIds : List Int
  items : List Item
deriving DecidableEq, Repr

structure ClaimResult where
  response : MailClaimRsp
  player : PublicPlayer
  logic : PlayerState
  accepted : Option (List Item)     -- the request that `add_items` has answered OK

def mailClaimError (code : Int) (message : String) : MailClaimRsp := ⟨some (errorStatus code message), [], []⟩

/-- `call_routed_to`, and what the claim makes of the response. -/
def grant (head : RpcHead) (gid : Int) (mailIds : List Int) (items : List Item) (env : ClaimEnv)
    (player : PublicPlayer) (logic : PlayerState) : ClaimResult :=
  if env.delivered then
    let (response, after) := addItemsReq env.hash logic gid head items env.handling
    let accepted :=
      if env.handling.runs ∧ (logic.addItems env.hash items).1.status = some okStatus then some items else none
    if env.answered then
      let status := response.status.getD (errorStatus Code.INTERNAL "Logic item response has no status")
      if status.code ≠ Code.OK then ⟨⟨some status, [], []⟩, player, after, accepted⟩
      else ⟨⟨some okStatus, mailIds, response.items⟩, player, after, accepted⟩
    else ⟨mailClaimError Code.TEMPORARILY_UNAVAILABLE "item grant failed", player, after, accepted⟩
  else ⟨mailClaimError Code.TEMPORARILY_UNAVAILABLE "item grant failed", player, logic, none⟩

/-- The rest of `claim`, with the attachments that its section has collected. -/
def handOut (head : RpcHead) (gid : Int) (mailIds : List Int) (items : List Item) (env : ClaimEnv)
    (player : PublicPlayer) (logic : PlayerState) : ClaimResult :=
  if items.isEmpty then ⟨⟨some okStatus, mailIds, []⟩, player, logic, none⟩
  else
    match env.online with
    | .ok (some online) =>
      if online.logicId > 0 then grant head gid mailIds items env player logic
      else ⟨mailClaimError Code.TEMPORARILY_UNAVAILABLE "Logic ownership unavailable", player, logic, none⟩
    | .ok none =>
      ⟨mailClaimError Code.TEMPORARILY_UNAVAILABLE "Logic ownership unavailable", player, logic, none⟩
    | .error _ => ⟨mailClaimError Code.INTERNAL "online state load failed", player, logic, none⟩

/-- `MailService::claim` -/
def claim (head : RpcHead) (p : PublicPlayer) (mailIds : List Int) (now : Int) (env : ClaimEnv)
    (logic : PlayerState) : ClaimResult :=
  match playerGid head with
  | none => ⟨mailClaimError Code.INVALID_ARGUMENT "missing player route", p, logic, none⟩
  | some gid =>
    match validMailIds mailIds with
    | none => ⟨mailClaimError Code.INVALID_ARGUMENT "invalid mail ids", p, logic, none⟩
    | some mailIds =>
      if env.available then
        match p.update fun mails => claimMails mails mailIds now with
        | (.error status, player) => ⟨⟨some status, [], []⟩, player, logic, none⟩
        | (.ok items, player) => handOut head gid mailIds items env player logic
      else ⟨mailClaimError Code.INTERNAL "Public player data unavailable", p, logic, none⟩

/-! ## What is promised -/

/-- Logic has accepted the items, and every count has grown by what they come to. -/
def ClaimResult.Applied (result : ClaimResult) (logic : PlayerState) (items : List Item) : Prop :=
  result.accepted = some items ∧ ∀ itemId, PlayerState.count result.logic.items itemId
    = PlayerState.count logic.items itemId + PlayerState.total items itemId

/-- A mail that the claim leaves claimed has its attachments applied, and a claim that
    fails without Logic having applied any leaves everything as it was. -/
structure Kept (p : PublicPlayer) (logic : PlayerState) (result : ClaimResult) : Prop where
  granted : ∀ mailId mail after, mailOf p.mails mailId = some mail →
    mailOf result.player.mails mailId = some after → mail.attachments ≠ [] →
    mail.state < MAIL_CLAIMED → after.state ≥ MAIL_CLAIMED →
    ∃ items, result.Applied logic items ∧ mail.attachments <:+: items
  unchanged : result.response.status ≠ some okStatus → (∀ items, ¬ result.Applied logic items) →
    result.player = p

/-- The request is valid and every mail that it names can be claimed. -/
def Opens (p : PublicPlayer) (mailIds : List Int) (now : Int) : Prop :=
  (validMailIds mailIds).isSome = true
  ∧ ∀ mailId ∈ mailIds, ∃ mail, mailOf p.mails mailId = some mail ∧ PublicPlayer.Claimable now mail

/-- The attachments of the mails that the request names, in its order. -/
def attachmentsOf (mails : List Mail) (mailIds : List Int) : List Item :=
  mailIds.flatMap fun mailId => ((mailOf mails mailId).map (·.attachments)).getD []

/-- Where mails with attachments are about to be claimed, the player has a Logic,
    the request gets there and is run, the items can be added, and their sums are
    `i64`s. -/
def Grantable (head : RpcHead) (p : PublicPlayer) (mailIds : List Int) (now : Int) (env : ClaimEnv)
    (logic : PlayerState) : Prop :=
  (playerGid head).isSome = true → env.available = true → Opens p mailIds now →
    attachmentsOf p.mails mailIds ≠ [] →
    (∃ online, env.online = .ok (some online) ∧ online.logicId > 0)
    ∧ env.delivered = true ∧ env.handling.runs = true
    ∧ PlayerState.wellFormed (attachmentsOf p.mails mailIds) = true
    ∧ logic.Fits (attachmentsOf p.mails mailIds) ∧ PlayerState.SumsFit (attachmentsOf p.mails mailIds)

/-! ## The section of the claim -/

theorem collect_of_claimable {mails : List Mail} {now : Int} {mailIds : List Int} (before : List Item)
    (all : ∀ mailId ∈ mailIds, ∃ mail, mailOf mails mailId = some mail ∧ PublicPlayer.Claimable now mail) :
    collect mails now mailIds before = .ok (before ++ attachmentsOf mails mailIds) := by
  induction mailIds generalizing before with
  | nil => simp [collect, attachmentsOf]
  | cons mailId rest ih =>
    obtain ⟨⟨mail, found, current, unclaimed⟩, others⟩ := List.forall_mem_cons.mp all
    have notBlocked : ¬ (mail.endTime ≠ 0 ∧ mail.endTime ≤ now ∨ mail.state ≥ MAIL_CLAIMED) := by
      intro blocked
      rcases blocked with expired | claimed
      · exact current expired
      · omega
    rw [collect, found]
    simp only [if_neg notBlocked]
    rw [ih _ others]
    simp [attachmentsOf, found, List.append_assoc]

/-- The section marks the mails exactly when the request opens them. -/
theorem claim_of_opens {p : PublicPlayer} {mailIds : List Int} {now : Int} (opens : Opens p mailIds now) :
    p.claim mailIds now = (.ok (attachmentsOf p.mails mailIds), ⟨markClaimed p.mails mailIds, true⟩) := by
  obtain ⟨isValid, all⟩ := opens
  obtain ⟨ids, valid⟩ := Option.isSome_iff_exists.mp isValid
  obtain ⟨rfl, _⟩ := PublicPlayer.validMailIds_some valid
  have collected := collect_of_claimable [] all
  simp [PublicPlayer.claim, valid, PublicPlayer.update, claimMails, collected]

theorem claim_of_not_opens {p : PublicPlayer} {mailIds : List Int} {now : Int}
    (closed : ¬ Opens p mailIds now) : ∃ status, p.claim mailIds now = (.error status, p) := by
  rcases p.claim_cases mailIds now with failed | ⟨chosen, ids, all, claimed⟩
  · exact failed
  · exfalso
    apply closed
    constructor
    · cases valid : validMailIds mailIds with
      | none => simp [PublicPlayer.claim, valid] at claimed
      | some ids => rfl
    · intro mailId member
      rw [← ids] at member
      obtain ⟨mail, isChosen, rfl⟩ := List.mem_map.mp member
      exact ⟨mail, all mail isChosen⟩

/-- Marking does not change which mail an id stands for. -/
theorem mailOf_markClaimed (mails : List Mail) (mailIds : List Int) (mailId : Int) :
    mailOf (markClaimed mails mailIds) mailId = (mailOf mails mailId).map fun mail =>
      if mail.mailId ∈ mailIds then { mail with state := MAIL_CLAIMED } else mail := by
  have sameId : ((fun mail : Mail => decide (mail.mailId = mailId)) ∘ fun mail : Mail =>
      if mail.mailId ∈ mailIds then { mail with state := MAIL_CLAIMED } else mail) =
      fun mail => decide (mail.mailId = mailId) := by
    funext mail
    simp only [Function.comp_apply]
    split <;> rfl
  rw [mailOf, markClaimed, List.find?_map, sameId]
  rfl

/-- Somebody's attachments are among those of the request. -/
theorem attachmentsOf_infix {mails : List Mail} {mailIds : List Int} {mailId : Int} {mail : Mail}
    (named : mailId ∈ mailIds) (found : mailOf mails mailId = some mail) :
    mail.attachments <:+: attachmentsOf mails mailIds := by
  obtain ⟨front, rest, rfl⟩ := List.append_of_mem named
  refine ⟨attachmentsOf mails front, attachmentsOf mails rest, ?_⟩
  simp [attachmentsOf, found, List.append_assoc]

theorem exists_attachment {mails : List Mail} {mailIds : List Int} (some : attachmentsOf mails mailIds ≠ []) :
    ∃ mailId ∈ mailIds, ∃ mail, mailOf mails mailId = .some mail ∧ mail.attachments ≠ [] := by
  by_contra nobody
  apply some
  apply List.flatMap_eq_nil_iff.mpr
  intro mailId member
  cases found : mailOf mails mailId with
  | none => rfl
  | some mail =>
    by_contra attached
    exact nobody ⟨mailId, member, mail, found, attached⟩

/-! ## The request to Logic -/

/-- `add_items` adds the sums modulo `2 ^ 64`, so the counts are exact when no sum wraps. -/
theorem count_addItems_iff (hash : HashOrder) {logic : PlayerState} {items : List Item}
    (form : PlayerState.wellFormed items = true) (fits : logic.Fits items) :
    (∀ itemId, PlayerState.count (logic.addItems hash items).2.items itemId
      = PlayerState.count logic.items itemId + PlayerState.total items itemId) ↔ PlayerState.SumsFit items := by
  constructor
  · -- a named item is set to its count and the wrapped sum, which is the sum only when it is an `i64`
    intro counts itemId
    by_cases named : itemId ∈ items.map Item.itemId
    · have change := PlayerState.lookup_aggregateItems_of_mem named
      have added := PlayerState.count_of_lookup (PlayerState.applyChanges_done
        (PlayerState.changesOf_nodupKeys hash items) ((PlayerState.applyChanges_fits hash logic items).mpr fits)
        (PlayerState.mem_changesOf.mpr change))
      have counted := counts itemId
      rw [PlayerState.addItems_ok hash form fits, added] at counted
      have ge := PlayerState.wrapI64_ge (PlayerState.total items itemId)
      have lt := PlayerState.wrapI64_lt (PlayerState.total items itemId)
      omega
    · rw [PlayerState.total_of_not_mem named]
      decide
  · intro sums itemId
    exact PlayerState.count_addItems sums hash form fits itemId

theorem grant_player (head : RpcHead) (gid : Int) (mailIds : List Int) (items : List Item) (env : ClaimEnv)
    (player : PublicPlayer) (logic : PlayerState) :
    (grant head gid mailIds items env player logic).player = player := by
  unfold grant
  split
  · dsimp only
    split
    · split <;> rfl
    · rfl
  · rfl

theorem grant_logic (head : RpcHead) (gid : Int) (mailIds : List Int) (items : List Item) (env : ClaimEnv)
    (player : PublicPlayer) (logic : PlayerState) :
    (grant head gid mailIds items env player logic).logic =
      if env.delivered then (addItemsReq env.hash logic gid head items env.handling).2 else logic := by
  unfold grant
  split
  · dsimp only
    split
    · split <;> rfl
    · rfl
  · rfl

/-- Logic accepts the items exactly when it runs the request and they can be added. -/
theorem grant_accepted (head : RpcHead) (gid : Int) (mailIds : List Int) (items : List Item) (env : ClaimEnv)
    (player : PublicPlayer) (logic : PlayerState) :
    (grant head gid mailIds items env player logic).accepted =
      if env.delivered = true ∧ env.handling.runs = true ∧ PlayerState.wellFormed items = true
        ∧ logic.Fits items then some items else none := by
  have added := PlayerState.addItems_ok_iff env.hash logic items
  unfold grant
  cases delivered : env.delivered with
  | false => simp
  | true =>
    simp only [added, if_true, true_and]
    split
    · split <;> rfl
    · rfl

/-- The request carries the route of the claim, so Logic gets to `add_items`. -/
theorem addItemsReq_routed {head : RpcHead} {gid : Int} (route : playerGid head = some gid) (hash : HashOrder)
    (logic : PlayerState) (items : List Item) {handling : Handling} (runs : handling.runs = true) :
    (addItemsReq hash logic gid head items handling).2 = (logic.addItems hash items).2 := by
  have routed : ¬ (gid ≤ 0 ∨ head.gid ≠ 0 ∧ head.gid ≠ UInt64.ofNat gid.toNat) := by
    simp only [playerGid, Option.ite_none_right_eq_some, Option.some.injEq] at route
    obtain ⟨⟨_, _, positive, _⟩, rfl⟩ := route
    rw [Int.toNat_natCast, UInt64.ofNat_toNat]
    rintro (low | ⟨_, differ⟩)
    · omega
    · exact differ rfl
  rw [addItemsReq, if_neg routed]
  simp [runs]

/-- Logic applies the items exactly when it runs the request, they can be added, and no
    sum wraps. -/
theorem grant_applied {head : RpcHead} {gid : Int} (route : playerGid head = some gid) (mailIds : List Int)
    (items : List Item) (env : ClaimEnv) (player : PublicPlayer) (logic : PlayerState) (applied : List Item) :
    (grant head gid mailIds items env player logic).Applied logic applied ↔
      applied = items ∧ env.delivered = true ∧ env.handling.runs = true ∧ PlayerState.wellFormed items = true
        ∧ logic.Fits items ∧ PlayerState.SumsFit items := by
  rw [ClaimResult.Applied, grant_accepted, grant_logic]
  by_cases ran : env.delivered = true ∧ env.handling.runs = true ∧ PlayerState.wellFormed items = true
      ∧ logic.Fits items
  · obtain ⟨delivered, runs, form, fits⟩ := ran
    rw [if_pos ⟨delivered, runs, form, fits⟩, if_pos delivered, addItemsReq_routed route env.hash logic items runs]
    constructor
    · rintro ⟨isItems, counts⟩
      obtain rfl := Option.some.inj isItems
      exact ⟨rfl, delivered, runs, form, fits, (count_addItems_iff env.hash form fits).mp counts⟩
    · rintro ⟨rfl, _, _, _, _, sums⟩
      exact ⟨rfl, (count_addItems_iff env.hash form fits).mpr sums⟩
  · rw [if_neg ran]
    constructor
    · rintro ⟨nothing, _⟩
      cases nothing
    · rintro ⟨_, delivered, runs, form, fits, _⟩
      exact absurd ⟨delivered, runs, form, fits⟩ ran

/-! ## Exactly when the promise is kept -/

variable {head : RpcHead} {p : PublicPlayer} {mailIds : List Int} {now : Int} {env : ClaimEnv}

/-- With valid ids and the data at hand the claim goes through its section. -/
theorem claim_of_valid (p : PublicPlayer) (now : Int) {gid : Int} (route : playerGid head = some gid)
    (available : env.available = true) (valid : (validMailIds mailIds).isSome = true) :
    (∀ status player, p.claim mailIds now = (.error status, player) → ∀ logic,
      claim head p mailIds now env logic = ⟨⟨some status, [], []⟩, player, logic, none⟩)
    ∧ ∀ items player, p.claim mailIds now = (.ok items, player) → ∀ logic,
      claim head p mailIds now env logic = handOut head gid mailIds items env player logic := by
  obtain ⟨ids, isIds⟩ := Option.isSome_iff_exists.mp valid
  obtain ⟨rfl, _⟩ := PublicPlayer.validMailIds_some isIds
  constructor
  · intro status player failed logic
    simp only [PublicPlayer.claim, isIds] at failed
    simp only [claim, route, isIds, available, if_true, failed]
  · intro items player claimed logic
    simp only [PublicPlayer.claim, isIds] at claimed
    simp only [claim, route, isIds, available, if_true, claimed]

/-- Before the section of the claim nothing has happened. -/
theorem claim_of_closed (logic : PlayerState)
    (closed : ¬ ((playerGid head).isSome = true ∧ env.available = true ∧ Opens p mailIds now)) :
    (claim head p mailIds now env logic).player = p := by
  cases route : playerGid head with
  | none => simp [claim, route]
  | some gid =>
    cases valid : validMailIds mailIds with
    | none => simp [claim, route, valid]
    | some ids =>
      cases available : env.available with
      | false => simp [claim, route, valid, available]
      | true =>
        have notOpen : ¬ Opens p mailIds now := by
          intro opens
          exact closed ⟨by simp [route], available, opens⟩
        obtain ⟨status, failed⟩ := claim_of_not_opens notOpen
        rw [(claim_of_valid p now route available (by simp [valid])).1 status p failed]

/-- After it the mails are marked, and Logic may have applied the attachments. -/
theorem claim_of_open (logic : PlayerState) (route : (playerGid head).isSome = true)
    (available : env.available = true) (opens : Opens p mailIds now) :
    (claim head p mailIds now env logic).player = ⟨markClaimed p.mails mailIds, true⟩
    ∧ ((claim head p mailIds now env logic).response.status ≠ some okStatus →
      attachmentsOf p.mails mailIds ≠ [])
    ∧ (∀ items, (claim head p mailIds now env logic).Applied logic items ↔
      items = attachmentsOf p.mails mailIds ∧ attachmentsOf p.mails mailIds ≠ []
      ∧ (∃ online, env.online = .ok (some online) ∧ online.logicId > 0)
      ∧ env.delivered = true ∧ env.handling.runs = true
      ∧ PlayerState.wellFormed (attachmentsOf p.mails mailIds) = true
      ∧ logic.Fits (attachmentsOf p.mails mailIds) ∧ PlayerState.SumsFit (attachmentsOf p.mails mailIds)) := by
  obtain ⟨gid, isGid⟩ := Option.isSome_iff_exists.mp route
  rw [(claim_of_valid p now isGid available opens.1).2 _ _ (claim_of_opens opens), handOut]
  -- on every exit before the request Logic has accepted nothing
  have unasked : ∀ (response : MailClaimRsp) (player : PublicPlayer) (items : List Item),
      ¬ (⟨response, player, logic, none⟩ : ClaimResult).Applied logic items := by
    rintro response player items ⟨nothing, _⟩
    cases nothing
  cases attached : attachmentsOf p.mails mailIds with
  | nil => simp [unasked]
  | cons item rest =>
    simp only [List.isEmpty_cons, Bool.false_eq_true, if_false, ne_eq, reduceCtorEq, not_false_eq_true,
      implies_true, true_and]
    cases loaded : env.online with
    | error error => simp [unasked]
    | ok found =>
      cases found with
      | none => simp [unasked]
      | some online =>
        by_cases owned : online.logicId > 0
        · simp only [owned, if_true, grant_player, grant_applied isGid, Except.ok.injEq, Option.some.injEq,
            exists_eq_left', true_and, implies_true]
        · simp [owned, unasked]

/-- A claim keeps its promise exactly when Logic is there to keep it. -/
theorem claim_kept_iff (head : RpcHead) (p : PublicPlayer) (mailIds : List Int) (now : Int) (env : ClaimEnv)
    (logic : PlayerState) :
    Kept p logic (claim head p mailIds now env logic) ↔ Grantable head p mailIds now env logic := by
  constructor
  · -- some named mail has attachments and ends up claimed, so the promise says that they are applied
    intro kept route available opens attached
    obtain ⟨player, _, applies⟩ := claim_of_open logic route available opens
    obtain ⟨mailId, named, mail, found, nonempty⟩ := exists_attachment attached
    have sameId := (PublicPlayer.mailOf_some found).2
    have marked : mailOf (claim head p mailIds now env logic).player.mails mailId =
        some { mail with state := MAIL_CLAIMED } := by
      rw [player, mailOf_markClaimed, found]
      simp [sameId, named]
    obtain ⟨_, found', _, unclaimed⟩ := opens.2 mailId named
    obtain rfl := Option.some.inj (found.symm.trans found')
    obtain ⟨items, applied, _⟩ := kept.granted mailId mail _ found marked nonempty unclaimed (Int.le_refl _)
    exact ((applies items).mp applied).2.2
  · intro grantable
    by_cases isOpen : (playerGid head).isSome = true ∧ env.available = true ∧ Opens p mailIds now
    · obtain ⟨route, available, opens⟩ := isOpen
      obtain ⟨player, failed, applies⟩ := claim_of_open logic route available opens
      have applied : attachmentsOf p.mails mailIds ≠ [] →
          (claim head p mailIds now env logic).Applied logic (attachmentsOf p.mails mailIds) := by
        intro attached
        exact (applies _).mpr ⟨rfl, attached, grantable route available opens attached⟩
      constructor
      · -- only the named mails change their state
        intro mailId mail after found found' nonempty unclaimed claimed
        have named : mailId ∈ mailIds := by
          by_contra notNamed
          rw [player, mailOf_markClaimed, found] at found'
          simp only [(PublicPlayer.mailOf_some found).2, notNamed, if_false, Option.map_some,
            Option.some.injEq] at found'
          rw [← found'] at claimed
          omega
        have part := attachmentsOf_infix named found
        have attached : attachmentsOf p.mails mailIds ≠ [] := by
          intro nothing
          rw [nothing] at part
          exact nonempty (List.eq_nil_of_infix_nil part)
        exact ⟨_, applied attached, part⟩
      · intro notOk notApplied
        exact absurd (applied (failed notOk)) (notApplied _)
    · have player := claim_of_closed logic isOpen
      constructor
      · intro mailId mail after found found' _ unclaimed claimed
        rw [player, found] at found'
        obtain rfl := Option.some.inj found'
        omega
      · intro _ _
        exact player

/-- A mail with one attachment. -/
def gift : Mail := ⟨1, "hello", "", 100, 1000, 0, [⟨7, 2, 0⟩]⟩

/-- The player has no record in Redis. -/
def noOwner : ClaimEnv where
  available := true
  online := .ok none
  delivered := true
  handling := .completed (.ok ())
  answered := true
  hash := .inserted

theorem gift_claimed_not_granted :
    ¬ ∀ head p mailIds now env logic, Kept p logic (claim head p mailIds now env logic) := by
  intro kept
  have promise := (kept ⟨5, 7⟩ ⟨[gift], false⟩ [1] 200 noOwner ⟨∅, none, false⟩).granted
    1 gift { gift with state := MAIL_CLAIMED }
  obtain ⟨items, ⟨accepted, _⟩, _⟩ := promise (by decide) (by decide) (by decide) (by decide) (by decide)
  revert accepted
  simp [show (claim ⟨5, 7⟩ ⟨[gift], false⟩ [1] 200 noOwner ⟨∅, none, false⟩).accepted = none by decide]

end Xkk.Public
