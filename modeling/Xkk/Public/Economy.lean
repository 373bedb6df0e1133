import Mathlib.Data.List.Flatten
import Mathlib.Data.List.Perm.Subperm
import Mathlib.Logic.Function.Basic
import Xkk.Lib.Transition
import Xkk.Logic.Items
import Xkk.Public.Retention

/-! # Items come from mails

The attachments of a mail pass through two services.  Public holds them in the
mailbox, takes them out in the section of a claim and sends them to Logic; Logic
puts them into the player's items, from where they are used or removed.  Between
the two sections any other request may run, and the request to Logic may be lost,
refused or carried out in part.

Whatever happens on the way, nothing is made: what a player has, what is under way
to the player and what waits in unclaimed mails is covered by what was sent.
-/

namespace Xkk.Public

open Xkk.Lib Xkk.Protocol Xkk.Logic Xkk.Logic.PlayerState

/-! ## Pieces -/

/-- Every entry names an item and at least one piece of it. -/
def Positive (items : List Item) : Prop := ∀ item ∈ items, 0 < item.itemId ∧ 0 < item.count

section pieces

variable {few many : List Item}

theorem total_concat (first second : List Item) (itemId : Int) :
    total (first ++ second) itemId = total first itemId + total second itemId := by
  rw [total, List.filter_append, List.map_append, List.sum_append, total, total]

theorem total_perm (perm : few.Perm many) (itemId : Int) : total few itemId = total many itemId :=
  ((perm.filter _).map _).sum_eq

theorem Positive.subset (positive : Positive many) (subset : few ⊆ many) : Positive few :=
  fun item member => positive item (subset member)

theorem Positive.total_nonneg (positive : Positive few) (itemId : Int) : 0 ≤ total few itemId := by
  apply List.sum_nonneg
  intro n isCount
  obtain ⟨item, member, rfl⟩ := List.mem_map.mp isCount
  exact (positive item (List.mem_filter.mp member).1).2.le

/-- There are no more pieces in a part of the list. -/
theorem Positive.total_le (positive : Positive many) (part : few.Subperm many) (itemId : Int) :
    total few itemId ≤ total many itemId := by
  obtain ⟨inner, perm, sublist⟩ := part
  obtain ⟨rest, whole⟩ := sublist.exists_perm_append
  have others : Positive rest :=
    positive.subset fun item member => whole.mem_iff.mpr (List.mem_append_right _ member)
  have nonneg := others.total_nonneg itemId
  rw [← total_perm perm, total_perm whole, total_concat]
  omega

/-- Only the items that are named have pieces. -/
instance (items : List Item) : Decidable (SumsFit items) :=
  decidable_of_iff (∀ item ∈ items, -2 ^ 63 ≤ total items item.itemId ∧ total items item.itemId < 2 ^ 63) <| by
    constructor
    · intro all itemId
      by_cases named : itemId ∈ items.map Item.itemId
      · obtain ⟨item, member, rfl⟩ := List.mem_map.mp named
        exact all item member
      · rw [total_of_not_mem named]
        decide
    · exact fun all item _ => all item.itemId

theorem subperm_flatMap {a b : List Mail} (part : a.Subperm b) (f : Mail → List Item) :
    (a.flatMap f).Subperm (b.flatMap f) := by
  obtain ⟨l, perm, sublist⟩ := part
  exact ⟨l.flatMap f, perm.flatMap_right f, sublist.flatMap f⟩

end pieces

/-! ## Unclaimed mails -/

/-- The attachments that can still be claimed. -/
def unclaimed (mails : List Mail) : List Item :=
  (mails.filter fun mail => mail.state < MAIL_CLAIMED).flatMap (·.attachments)

def Formed (mails : List Mail) : Prop := ∀ mail ∈ mails, Positive mail.attachments

/-- What one section does to the mails: it takes attachments out, and may put the
    attachments of a new mail in. -/
structure Settles (before after : List Mail) (posted taken : List Item) : Prop where
  formed : Formed after
  positive : Positive taken
  balance : ∀ itemId, total (unclaimed after) itemId + total taken itemId
    ≤ total (unclaimed before) itemId + total posted itemId

section settles

variable {before after : List Mail}

theorem Formed.unclaimed (formed : Formed before) : Positive (unclaimed before) := by
  intro item member
  obtain ⟨mail, isMail, attached⟩ := List.mem_flatMap.mp member
  exact formed mail (List.mem_filter.mp isMail).1 item attached

/-- Dropping mails hands nothing out. -/
theorem Formed.drop (formed : Formed before) (sublist : after.Sublist before) : Settles before after [] [] where
  formed := fun mail member => formed mail (sublist.subset member)
  positive := by simp [Positive]
  balance := by
    intro itemId
    have part : (Public.unclaimed after).Subperm (Public.unclaimed before) :=
      subperm_flatMap (sublist.filter _).subperm _
    have fewer := formed.unclaimed.total_le part itemId
    omega

/-- A section that only marks mails keeps their attachments. -/
theorem Formed.mark (formed : Formed before) (mark : Mail → Mail)
    (keeps : ∀ mail, (mark mail).attachments = mail.attachments) : Formed (before.map mark) := by
  intro mail member
  obtain ⟨old, isOld, rfl⟩ := List.mem_map.mp member
  rw [keeps]
  exact formed old isOld

theorem unclaimed_readMails (mails : List Mail) (mailIds : List Int) :
    unclaimed (readMails mails mailIds).2 = unclaimed mails := by
  have state : ∀ mail : Mail,
      decide ((if isUnread mailIds mail then { mail with state := MAIL_READ } else mail).state < MAIL_CLAIMED)
        = decide (mail.state < MAIL_CLAIMED) := by
    intro mail
    split
    next unread =>
      have early : mail.state < MAIL_READ := of_decide_eq_true (Bool.and_eq_true_iff.mp unread).2
      have below : MAIL_READ < MAIL_CLAIMED := by decide
      exact decide_eq_decide.mpr (iff_of_true below (early.trans below))
    next => rfl
  have attachments : ∀ mail : Mail,
      (if isUnread mailIds mail then { mail with state := MAIL_READ } else mail).attachments
        = mail.attachments := by
    intro mail
    split <;> rfl
  simp only [unclaimed, readMails, List.filter_map, List.flatMap_map, Function.comp_def, state, attachments]

theorem Formed.read (formed : Formed before) (mailIds : List Int) :
    Settles before (readMails before mailIds).2 [] [] where
  formed := formed.mark _ fun mail => by split <;> rfl
  positive := by simp [Positive]
  balance := by
    intro itemId
    rw [unclaimed_readMails]

/-- What a claim leaves open are the mails that it does not name. -/
theorem unclaimed_markClaimed (mails : List Mail) (mailIds : List Int) :
    unclaimed (markClaimed mails mailIds)
      = ((mails.filter fun mail => mail.state < MAIL_CLAIMED).filter fun mail => mail.mailId ∉ mailIds).flatMap
        (·.attachments) := by
  induction mails with
  | nil => rfl
  | cons mail mails ih =>
    simp only [unclaimed, markClaimed, List.map_cons, List.filter_cons] at ih ⊢
    by_cases named : mail.mailId ∈ mailIds
    · by_cases isOpen : mail.state < MAIL_CLAIMED
      · simpa [named, isOpen] using ih
      · simpa [named, isOpen] using ih
    · by_cases isOpen : mail.state < MAIL_CLAIMED
      · simpa [named, isOpen] using ih
      · simpa [named, isOpen] using ih

/-- A claim hands out attachments that cannot be claimed again. -/
theorem Formed.claim {p : PublicPlayer} (formed : Formed p.mails) {mailIds : List Int} {now : Int}
    {chosen : List Mail} (sameIds : chosen.map (·.mailId) = mailIds) (distinct : mailIds.Nodup)
    (all : ∀ mail ∈ chosen, mailOf p.mails mail.mailId = some mail ∧ PublicPlayer.Claimable now mail) :
    Settles p.mails (markClaimed p.mails mailIds) [] (chosen.flatMap (·.attachments)) where
  formed := formed.mark _ fun mail => by split <;> rfl
  positive := by
    intro item member
    obtain ⟨mail, isChosen, attached⟩ := List.mem_flatMap.mp member
    exact formed mail (PublicPlayer.mailOf_some (all mail isChosen).1).1 item attached
  balance := by
    intro itemId
    have once : chosen.Nodup := List.Nodup.of_map _ (sameIds ▸ distinct)
    have named : chosen.Subperm ((p.mails.filter fun mail => mail.state < MAIL_CLAIMED).filter
        fun mail => mail.mailId ∈ mailIds) := by
      apply once.subperm
      intro mail isChosen
      obtain ⟨found, _, isOpen⟩ := all mail isChosen
      have member := (PublicPlayer.mailOf_some found).1
      have isNamed : mail.mailId ∈ mailIds := sameIds ▸ List.mem_map_of_mem isChosen
      simp [member, isOpen, isNamed]
    have split := List.filter_append_perm (fun mail : Mail => decide (mail.mailId ∈ mailIds))
      (p.mails.filter fun mail => mail.state < MAIL_CLAIMED)
    have covered := formed.unclaimed.total_le (subperm_flatMap
      (((List.subperm_append_right _).mpr named).trans split.subperm) (·.attachments)) itemId
    rw [List.flatMap_append, total_concat] at covered
    rw [unclaimed_markClaimed]
    simp only [decide_not] at covered ⊢
    have nothing : total [] itemId = 0 := rfl
    omega

/-- `send_mail` lets only positive attachments through. -/
theorem positive_of_valid {gid : Int} {message : Mail} (valid : ¬ invalidMail gid message = true) :
    Positive message.attachments := by
  intro item attached
  simp only [invalidMail, Bool.or_eq_true, List.any_eq_true, decide_eq_true_eq, not_or, not_exists,
    not_and] at valid
  have checked := valid.2 item attached
  omega

theorem Formed.post (formed : Formed before) (order : UnstableSort Mail Mail.mailId) {message posted : Mail}
    (positive : Positive message.attachments) {mailId now : Int} {dirty : Bool}
    (sent : postMail order before message mailId now = ((.ok posted, dirty), after)) :
    posted.attachments = message.attachments ∧ Settles before after message.attachments [] := by
  rcases postMail_cases order before message mailId now with
    ⟨status, refused⟩ | ⟨sendTime, endTime, _, isSent⟩
  · rw [refused] at sent
    cases sent
  · rw [isSent] at sent
    cases sent
    refine ⟨rfl, ?_⟩
    have perm := order.perm (before ++ [stamped message mailId sendTime endTime])
    have added : Formed (order.sort (before ++ [stamped message mailId sendTime endTime])) := by
      intro mail member
      rcases List.mem_append.mp (perm.mem_iff.mp member) with old | new
      · exact formed mail old
      · obtain rfl := List.mem_singleton.mp new
        exact positive
    have drained := added.drop (List.drop_sublist
      ((order.sort (before ++ [stamped message mailId sendTime endTime])).length - MAX_MAILS_PER_PLAYER) _)
    refine ⟨drained.formed, drained.positive, ?_⟩
    intro itemId
    have fewer := drained.balance itemId
    have whole :
        total (Public.unclaimed (order.sort (before ++ [stamped message mailId sendTime endTime]))) itemId
          = total (Public.unclaimed before) itemId + total message.attachments itemId := by
      have listed := total_perm ((perm.filter fun mail => mail.state < MAIL_CLAIMED).flatMap_right
        (·.attachments)) itemId
      rw [Public.unclaimed, listed, List.filter_append, List.flatMap_append, total_concat]
      simp [Public.unclaimed, stamped, MAIL_CLAIMED]
    rw [whole] at fewer
    have nothing : total [] itemId = 0 := rfl
    omega

end settles

/-! ## Logic -/

section logic

variable {p : PlayerState} {items : List Item}

theorem wrapI64_le {n : Int} (nonneg : 0 ≤ n) : wrapI64 n ≤ n := by
  have least := wrapI64_ge n
  have most := wrapI64_lt n
  by_cases fits : n < 2 ^ 63
  · rw [wrapI64_of_fits (by omega) fits]
  · omega

/-- Whether it runs through or stops in between, `add_items` adds no more than it is
    asked for. -/
theorem addItems_le (positive : Positive items) (hash : HashOrder) (itemId : Int) :
    count (p.addItems hash items).2.items itemId ≤ count p.items itemId + total items itemId := by
  have asked := positive.total_nonneg itemId
  have applied : count (applyChanges (changesOf hash items) p.items).2 itemId
      ≤ count p.items itemId + total items itemId := by
    obtain old | ⟨amount, next, member, added, found⟩ :=
      applyChanges_lookup (changesOf_nodupKeys hash items) p.items itemId
    · rw [count, old, ← count]
      omega
    · have isAmount : amount = wrapI64 (total items itemId) :=
        (lookup_aggregateItems (mem_changesOf.mp member)).2
      have wrapped := wrapI64_le asked
      rw [count_of_lookup found, (checkedAdd_eq_some added).1]
      omega
  cases form : wellFormed items with
  | false =>
    rw [addItems_invalid hash p form]
    show count p.items itemId ≤ _
    omega
  | true =>
    by_cases fits : p.Fits items
    · rw [addItems_ok hash form fits]
      exact applied
    · rw [addItems_conflict hash form fits]
      exact applied

theorem useItem_le (p : PlayerState) (used n itemId : Int) :
    count (p.useItem used n).2.items itemId ≤ count p.items itemId := by
  rw [useItem]
  split
  · exact le_refl _
  · dsimp only
    split
    · exact le_refl _
    · by_cases same : itemId = used
      · subst same
        rw [count_setRemaining]
        omega
      · rw [count, lookup_setRemaining_ne same, ← count]

/-- Taking amounts that are there leaves no count higher than it was. -/
theorem takeChanges_le {changes : List Change} (keys : changes.NodupKeys) {before left : Items}
    {result : List Item} (covered : ∀ change ∈ changes, 0 < change.2 ∧ change.2 ≤ count before change.1)
    (taken : takeChanges changes before = some (left, result)) (itemId : Int) :
    count left itemId ≤ count before itemId := by
  induction changes generalizing before result with
  | nil =>
    cases taken
    exact le_refl _
  | cons change rest ih =>
    obtain ⟨other, amount⟩ := change
    obtain ⟨absent, restKeys⟩ := List.nodupKeys_cons.mp keys
    obtain ⟨⟨positive, enough⟩, others⟩ := List.forall_mem_cons.mp covered
    rw [takeChanges] at taken
    cases found : before.lookup other with
    | none => simp [found] at taken
    | some current =>
      simp only [found] at taken
      obtain ⟨⟨items, rested⟩, goes, same⟩ := Option.map_eq_some_iff.mp taken
      cases same
      rw [count_of_lookup found] at enough
      have remaining := wrapI64_le (Int.sub_nonneg.mpr enough)
      have fewer : ∀ i, count (setRemaining before other (wrapI64 (current - amount))) i ≤ count before i := by
        intro i
        by_cases same : i = other
        · subst same
          rw [count_setRemaining, count_of_lookup found]
          simp only at positive remaining
          omega
        · rw [count, lookup_setRemaining_ne same, ← count]
      refine le_trans (ih restKeys ?_ goes) (fewer itemId)
      intro change member
      have differ : change.1 ≠ other := by
        intro same
        have key : change.1 ∈ rest.keys := List.mem_keys_of_mem member
        exact absent (same ▸ key)
      rw [count, lookup_setRemaining_ne differ, ← count]
      exact others change member

/-- `remove_items` takes off what it names, as long as its sums are `i64`s. -/
theorem removeItems_le (sums : SumsFit items) {hash : HashOrder} {rsp : RemoveItemsRsp} {q : PlayerState}
    (ran : p.removeItems hash items = some (rsp, q)) (itemId : Int) :
    count q.items itemId ≤ count p.items itemId := by
  cases form : wellFormed items with
  | false =>
    rw [removeItems_invalid hash p form] at ran
    cases ran
    exact le_refl _
  | true =>
    by_cases covered : p.Covered items
    · rw [removeItems_covered hash form covered] at ran
      obtain ⟨⟨left, result⟩, taken, same⟩ := Option.map_eq_some_iff.mp ran
      cases same
      refine takeChanges_le (changesOf_nodupKeys hash items) ?_ taken itemId
      intro change member
      have named := lookup_aggregateItems (mem_changesOf.mp member)
      have positive := total_pos form named.1
      rw [named.2, wrapI64_of_fits (sums change.1).1 (sums change.1).2]
      refine ⟨positive, ?_⟩
      have enough := covered change.1 change.2 (mem_changesOf.mp member)
      rwa [named.2, wrapI64_of_fits (sums change.1).1 (sums change.1).2] at enough
    · rw [removeItems_short hash form covered] at ran
      cases ran
      exact le_refl _

end logic

/-! ## The two services -/

/-- The request of a claim, on its way to Logic. -/
structure Granting where
  gid : Int
  head : RpcHead
  items : List Item
deriving DecidableEq, Repr

/-- The mailboxes in Public, the players in Logic and the requests in between; `sent`
    are the attachments of all the mails that were accepted for a player. -/
structure Economy where
  mailboxes : Int → PublicPlayer
  players : Int → PlayerState
  granting : List Granting
  sent : Int → List Item

namespace Economy

inductive Label where
  | send (gid : Int) (message : Option Mail) (mailId now : Int)
  | read (head : RpcHead) (mailIds : List Int)
  | delete (head : RpcHead) (mailIds : List Int)
  | claim (head : RpcHead) (mailIds : List Int) (now : Int)
  | grant (i : Nat) (hash : HashOrder) (handling : Handling)    -- the request has reached Logic
  | abandon (i : Nat)                                          -- the claim ends without that
  | useItem (gid itemId n : Int)
  | removeItems (gid : Int) (hash : HashOrder) (items : List Item)

def setMailbox (s : Economy) (gid : Int) (player : PublicPlayer) : Economy :=
  { s with mailboxes := Function.update s.mailboxes gid player }

def setPlayer (s : Economy) (gid : Int) (player : PlayerState) : Economy :=
  { s with players := Function.update s.players gid player }

/-- `MailService::claim` after its section: only attachments make a request. -/
def claimed (s : Economy) (gid : Int) (head : RpcHead) : Except Status (List Item) × PublicPlayer → Economy
  | (.ok items, player) =>
    { s.setMailbox gid player with
      granting := if items.isEmpty then s.granting else s.granting ++ [⟨gid, head, items⟩] }
  | (.error _, player) => s.setMailbox gid player

def step (order : UnstableSort Mail Mail.mailId) (s : Economy) : Label → Option Economy
  | .send gid message mailId now =>
    match (s.mailboxes gid).sendMail order gid message mailId now with
    | (.ok mail, player) =>
      some { s.setMailbox gid player with sent := Function.update s.sent gid (s.sent gid ++ mail.attachments) }
    | (.error _, player) => some (s.setMailbox gid player)
  | .read head mailIds =>
    (playerGid head).map fun gid => s.setMailbox gid ((s.mailboxes gid).read mailIds).2
  | .delete head mailIds =>
    (playerGid head).map fun gid => s.setMailbox gid ((s.mailboxes gid).delete mailIds).2
  | .claim head mailIds now =>
    (playerGid head).map fun gid => s.claimed gid head ((s.mailboxes gid).claim mailIds now)
  | .grant i hash handling =>
    s.granting[i]?.map fun request =>
      { s.setPlayer request.gid
          (addItemsReq hash (s.players request.gid) request.gid request.head request.items handling).2 with
        granting := s.granting.eraseIdx i }
  | .abandon i => s.granting[i]?.map fun _ => { s with granting := s.granting.eraseIdx i }
  | .useItem gid itemId n => some (s.setPlayer gid ((s.players gid).useItem itemId n).2)
  | .removeItems gid hash items =>
    ((s.players gid).removeItems hash items).map fun (_, player) => s.setPlayer gid player

/-- The attachments in the mailboxes and in the requests are checked ones. -/
structure Checked (s : Economy) : Prop where
  mailboxes : ∀ gid, Formed (s.mailboxes gid).mails
  granting : ∀ request ∈ s.granting, Positive request.items

def system (order : UnstableSort Mail Mail.mailId) : System Economy Label := .ofFun Checked (step order)

/-- The sums of a removal are `i64`s. -/
def Exact (_ : Economy) : Label → Prop
  | .removeItems _ _ items => SumsFit items
  | _ => True

instance (s : Economy) (l : Label) : Decidable (Exact s l) :=
  match l with
  | .removeItems _ _ items => inferInstanceAs (Decidable (SumsFit items))
  | .send .. | .read .. | .delete .. | .claim .. | .grant .. | .abandon _ | .useItem .. => .isTrue trivial

/-- What is on its way to the player. -/
def underway (granting : List Granting) (gid : Int) : List Item :=
  (granting.filter fun request => request.gid = gid).flatMap (·.items)

/-- How many pieces of the item the player has, or can still get. -/
def held (s : Economy) (gid itemId : Int) : Int :=
  count (s.players gid).items itemId + total (underway s.granting gid) itemId
    + total (unclaimed (s.mailboxes gid).mails) itemId

/-- From one state to another, what a player holds grows by no more than what is sent. -/
def Covered (s t : Economy) : Prop :=
  ∀ gid itemId, t.held gid itemId + total (s.sent gid) itemId ≤ s.held gid itemId + total (t.sent gid) itemId

variable {order : UnstableSort Mail Mail.mailId} {s t : Economy} {gid : Int}

/-! ### Sections of the mailboxes -/

/-- What the mailbox gives is under way, and what it gets was sent. -/
theorem Checked.section (checked : s.Checked) (player : PublicPlayer) (posted : List Item)
    (pending : List Granting) (own : ∀ request ∈ pending, request.gid = gid)
    (settles : Settles (s.mailboxes gid).mails player.mails posted (pending.flatMap (·.items)))
    (mailboxes : t.mailboxes = Function.update s.mailboxes gid player) (players : t.players = s.players)
    (granting : t.granting = s.granting ++ pending)
    (sent : t.sent = Function.update s.sent gid (s.sent gid ++ posted)) : t.Checked ∧ s.Covered t := by
  refine ⟨⟨?_, ?_⟩, ?_⟩
  · intro other
    rw [mailboxes]
    by_cases same : other = gid
    · subst same
      rw [Function.update_self]
      exact settles.formed
    · rw [Function.update_of_ne same]
      exact checked.mailboxes other
  · intro request member
    rw [granting] at member
    rcases List.mem_append.mp member with old | new
    · exact checked.granting request old
    · exact settles.positive.subset fun item attached => List.mem_flatMap.mpr ⟨request, new, attached⟩
  · intro other itemId
    have isUnderway : underway t.granting other = underway s.granting other
        ++ (pending.filter fun request => request.gid = other).flatMap (·.items) := by
      rw [underway, granting, List.filter_append, List.flatMap_append, underway]
    simp only [held, isUnderway, total_concat, mailboxes, players, sent]
    by_cases same : other = gid
    · subst same
      have all : (pending.filter fun request => request.gid = other) = pending :=
        List.filter_eq_self.mpr fun request member => by simp [own request member]
      have balance := settles.balance itemId
      rw [all, Function.update_self, Function.update_self, total_concat]
      omega
    · have none : (pending.filter fun request => request.gid = other) = [] :=
        List.filter_eq_nil_iff.mpr fun request member => by simp [own request member, Ne.symm same]
      have nothing : total [] itemId = 0 := rfl
      rw [none, Function.update_of_ne same, Function.update_of_ne same, List.flatMap_nil]
      omega

/-- A section that hands nothing out and gets nothing. -/
theorem Checked.setMailbox (checked : s.Checked) {player : PublicPlayer}
    (settles : Settles (s.mailboxes gid).mails player.mails [] []) :
    (s.setMailbox gid player).Checked ∧ s.Covered (s.setMailbox gid player) :=
  checked.section player [] [] (by simp) settles rfl rfl (by simp [Economy.setMailbox])
    (by simp [Economy.setMailbox])

theorem Checked.send (checked : s.Checked) {message : Option Mail} {mailId now : Int}
    (taken : s.step order (.send gid message mailId now) = some t) : t.Checked ∧ s.Covered t := by
  simp only [step] at taken
  cases sends : (s.mailboxes gid).sendMail order gid message mailId now with
  | mk outcome player =>
    simp only [sends] at taken
    cases outcome with
    | error status =>
      obtain rfl := Option.some.inj taken
      rw [sendMail_error order sends]
      exact checked.setMailbox ((checked.mailboxes gid).drop (List.Sublist.refl _))
    | ok mail =>
      obtain rfl := Option.some.inj taken
      cases message with
      | none => cases sends
      | some message =>
        rw [PublicPlayer.sendMail] at sends
        by_cases invalid : invalidMail gid message = true
        · simp [invalid] at sends
        · rw [if_neg invalid] at sends
          cases posts : postMail order (s.mailboxes gid).mails message mailId now with
          | mk result mails =>
            obtain ⟨outcome, changed⟩ := result
            simp only [PublicPlayer.update, posts] at sends
            cases sends
            obtain ⟨attachments, settles⟩ :=
              (checked.mailboxes gid).post order (positive_of_valid invalid) posts
            exact checked.section _ message.attachments [] (by simp) settles rfl rfl
              (by simp [Economy.setMailbox]) (by rw [attachments])

theorem Checked.claim (checked : s.Checked) {head : RpcHead} {mailIds : List Int} {now : Int}
    (taken : s.step order (.claim head mailIds now) = some t) : t.Checked ∧ s.Covered t := by
  obtain ⟨gid, _, rfl⟩ := Option.map_eq_some_iff.mp taken
  rcases (s.mailboxes gid).claim_cases mailIds now with ⟨status, failed⟩ | ⟨chosen, sameIds, all, isClaimed⟩
  · rw [failed]
    exact checked.setMailbox ((checked.mailboxes gid).drop (List.Sublist.refl _))
  · rw [isClaimed]
    have settles := (checked.mailboxes gid).claim sameIds (PublicPlayer.claim_nodup isClaimed) all
    by_cases empty : (chosen.flatMap (·.attachments)).isEmpty = true
    · rw [List.isEmpty_iff.mp empty] at settles
      rw [claimed, if_pos empty]
      exact checked.setMailbox settles
    · rw [claimed, if_neg empty]
      exact checked.section ⟨markClaimed (s.mailboxes gid).mails mailIds, true⟩ []
        [⟨gid, head, chosen.flatMap (·.attachments)⟩] (by simp) (by simpa using settles) rfl rfl rfl
        (by simp [Economy.setMailbox])

/-! ### Commands at Logic -/

theorem total_underway {granting : List Granting} {i : Nat} {request : Granting}
    (found : granting[i]? = some request) (other itemId : Int) :
    total (underway granting other) itemId = total (underway (granting.eraseIdx i) other) itemId
      + if request.gid = other then total request.items itemId else 0 := by
  obtain ⟨inside, isRequest⟩ := List.getElem?_eq_some_iff.mp found
  have perm := ((List.getElem_cons_eraseIdx_perm inside).filter fun request => decide (request.gid = other))
  have whole := total_perm (perm.flatMap_right (·.items)) itemId
  rw [isRequest] at whole
  simp only [underway]
  rw [← whole, List.filter_cons]
  by_cases own : request.gid = other
  · simp [own, total_concat, Int.add_comm]
  · simp [own]

/-- The player changes at Logic, and a request may be over. -/
theorem Checked.command (checked : s.Checked) {player : PlayerState} {granting : List Granting}
    (part : granting ⊆ s.granting)
    (fewer : ∀ itemId, count player.items itemId + total (underway granting gid) itemId
      ≤ count (s.players gid).items itemId + total (underway s.granting gid) itemId)
    (others : ∀ other, other ≠ gid → ∀ itemId,
      total (underway granting other) itemId ≤ total (underway s.granting other) itemId) :
    ({ s.setPlayer gid player with granting := granting } : Economy).Checked
    ∧ s.Covered { s.setPlayer gid player with granting := granting } := by
  refine ⟨⟨checked.mailboxes, fun request member => checked.granting request (part member)⟩, ?_⟩
  intro other itemId
  simp only [held, underway, Economy.setPlayer] at fewer others ⊢
  by_cases same : other = gid
  · subst same
    have less := fewer itemId
    rw [Function.update_self]
    omega
  · have less := others other same itemId
    rw [Function.update_of_ne same]
    omega

theorem addItemsReq_le (gid : Int) (p : PlayerState) (head : RpcHead) {items : List Item}
    (positive : Positive items) (hash : HashOrder) (handling : Handling) (itemId : Int) :
    count (addItemsReq hash p gid head items handling).2.items itemId
      ≤ count p.items itemId + total items itemId := by
  have asked := positive.total_nonneg itemId
  have added : count (p.addItems hash items).2.items itemId ≤ _ := addItems_le positive hash itemId
  rw [addItemsReq]
  split
  · show count p.items itemId ≤ _
    omega
  · dsimp only
    split
    · exact added
    · omega

theorem Checked.grant (checked : s.Checked) {i : Nat} {hash : HashOrder} {handling : Handling}
    (taken : s.step order (.grant i hash handling) = some t) : t.Checked ∧ s.Covered t := by
  obtain ⟨request, found, rfl⟩ := Option.map_eq_some_iff.mp taken
  have positive := checked.granting request (List.mem_of_getElem? found)
  apply checked.command (fun other member => List.mem_of_mem_eraseIdx member)
  · intro itemId
    have added := addItemsReq_le request.gid (s.players request.gid) request.head positive hash handling itemId
    have whole := total_underway found request.gid itemId
    rw [if_pos rfl] at whole
    omega
  · intro other differ itemId
    have whole := total_underway found other itemId
    rw [if_neg (Ne.symm differ)] at whole
    omega

/-- `MailService::claim` is a run: its section, and then its request, if it gets to
    Logic. -/
theorem claim_run (head : RpcHead) (mailIds : List Int) (now : Int) (env : ClaimEnv)
    (route : playerGid head = some gid) :
    ∃ t, (system order).Run Exact s t
      ∧ t.mailboxes gid = (Public.claim head (s.mailboxes gid) mailIds now env (s.players gid)).player
      ∧ t.players gid = (Public.claim head (s.mailboxes gid) mailIds now env (s.players gid)).logic := by
  have first : (system order).Run Exact s (s.claimed gid head ((s.mailboxes gid).claim mailIds now)) :=
    .step (l := .claim head mailIds now) .refl trivial (by simp [system, System.ofFun, step, route])
  by_cases valid : (validMailIds mailIds).isSome = true
  case neg =>
    have invalid := Option.not_isSome_iff_eq_none.mp valid
    exact ⟨s, .refl, by simp [Public.claim, route, invalid], by simp [Public.claim, route, invalid]⟩
  obtain ⟨ids, isIds⟩ := Option.isSome_iff_exists.mp valid
  by_cases available : env.available = true
  case neg =>
    refine ⟨s, .refl, ?_, ?_⟩
    · simp [Public.claim, route, isIds, available]
    · simp [Public.claim, route, isIds, available]
  obtain ⟨refused, opened⟩ := claim_of_valid (s.mailboxes gid) now route available valid
  generalize (s.mailboxes gid).claim mailIds now = result at first refused opened
  obtain ⟨outcome, player⟩ := result
  cases outcome with
  | error status =>
    rw [refused status player rfl]
    exact ⟨_, first, by simp [claimed, setMailbox], rfl⟩
  | ok items =>
    rw [opened items player rfl, handOut]
    have box : (s.claimed gid head (.ok items, player)).mailboxes gid = player := by simp [claimed, setMailbox]
    by_cases empty : items.isEmpty = true
    · simp only [if_pos empty]
      exact ⟨_, first, box, rfl⟩
    · simp only [if_neg empty]
      cases env.online with
      | error error => exact ⟨_, first, box, rfl⟩
      | ok online =>
        cases online with
        | none => exact ⟨_, first, box, rfl⟩
        | some online =>
          by_cases owned : online.logicId > 0
          · simp only [if_pos owned, grant_player, grant_logic]
            by_cases delivered : env.delivered = true
            · have queued : (s.claimed gid head (.ok items, player)).granting[s.granting.length]?
                  = some ⟨gid, head, items⟩ := by
                rw [claimed, if_neg empty]
                simp
              refine ⟨_, .step (l := .grant s.granting.length env.hash env.handling) first trivial
                (congrArg (Option.map _) queued), box, ?_⟩
              rw [if_pos delivered]
              exact Function.update_self ..
            · rw [if_neg delivered]
              exact ⟨_, first, box, rfl⟩
          · simp only [if_neg owned]
            exact ⟨_, first, box, rfl⟩

theorem covered_step (checked : s.Checked) {l : Label} (fits : Exact s l) (taken : s.step order l = some t) :
    t.Checked ∧ s.Covered t := by
  cases l with
  | send gid message mailId now => exact checked.send taken
  | read head mailIds =>
    obtain ⟨gid, _, rfl⟩ := Option.map_eq_some_iff.mp taken
    apply checked.setMailbox
    rw [PublicPlayer.read]
    cases validMailIds mailIds with
    | none => exact (checked.mailboxes gid).drop (List.Sublist.refl _)
    | some ids => exact (checked.mailboxes gid).read ids
  | delete head mailIds =>
    obtain ⟨gid, _, rfl⟩ := Option.map_eq_some_iff.mp taken
    apply checked.setMailbox
    rw [PublicPlayer.delete]
    cases validMailIds mailIds with
    | none => exact (checked.mailboxes gid).drop (List.Sublist.refl _)
    | some ids => exact (checked.mailboxes gid).drop List.filter_sublist
  | claim head mailIds now => exact checked.claim taken
  | grant i hash handling => exact checked.grant taken
  | abandon i =>
    obtain ⟨request, found, rfl⟩ := Option.map_eq_some_iff.mp taken
    have fewer : ∀ other itemId, total (underway (s.granting.eraseIdx i) other) itemId
        ≤ total (underway s.granting other) itemId := by
      intro other itemId
      have asked := (checked.granting request (List.mem_of_getElem? found)).total_nonneg itemId
      rw [total_underway found]
      split <;> omega
    constructor
    · exact ⟨checked.mailboxes, fun other member => checked.granting other (List.mem_of_mem_eraseIdx member)⟩
    · intro gid itemId
      have less := fewer gid itemId
      simp only [held]
      omega
  | useItem gid itemId n =>
    obtain rfl := Option.some.inj taken
    apply checked.command (List.Subset.refl _)
    · intro other
      exact Int.add_le_add_right (useItem_le (s.players gid) itemId n other) _
    · exact fun _ _ _ => le_refl _
  | removeItems gid hash items =>
    obtain ⟨⟨rsp, player⟩, ran, rfl⟩ := Option.map_eq_some_iff.mp taken
    apply checked.command (List.Subset.refl _)
    · intro other
      exact Int.add_le_add_right (removeItems_le fits ran other) _
    · exact fun _ _ _ => le_refl _

/-- In every run in which no sum of a removal wraps, what a player has of an item grows
    by no more than what was under way, what could be claimed and what has been sent to
    this player since. -/
theorem nothing_is_made (checked : s.Checked) (run : (system order).Run Exact s t) (gid itemId : Int) :
    t.held gid itemId + total (s.sent gid) itemId ≤ s.held gid itemId + total (t.sent gid) itemId
    ∧ count (t.players gid).items itemId ≤ t.held gid itemId := by
  have kept : t.Checked ∧ s.Covered t := by
    refine run.inv (I := fun u => u.Checked ∧ s.Covered u) ?_ ⟨checked, fun _ _ => le_refl _⟩
    rintro u l v ⟨uChecked, before⟩ fits taken
    obtain ⟨vChecked, next⟩ := covered_step uChecked fits taken
    refine ⟨vChecked, ?_⟩
    intro gid itemId
    have first := before gid itemId
    have second := next gid itemId
    omega
  refine ⟨kept.2 gid itemId, ?_⟩
  have positive : Positive (underway t.granting gid) := by
    intro item member
    obtain ⟨request, isRequest, granted⟩ := List.mem_flatMap.mp member
    exact kept.1.granting request (List.mem_filter.mp isRequest).1 item granted
  have grants := positive.total_nonneg itemId
  have mails := (kept.1.mailboxes gid).unclaimed.total_nonneg itemId
  rw [held]
  omega

/-- A gift is sent, claimed and granted, and a part of it is used; a second claim finds
    nothing left. -/
def giftUsed : List Label :=
  [.send 5 (some ⟨0, "gift", "", 0, 0, 0, [⟨7, 3, 0⟩]⟩) 1 100, .claim ⟨5, 9⟩ [1] 101, .claim ⟨5, 9⟩ [1] 102,
    .grant 0 .inserted (.completed (.ok ())), .useItem 5 7 1]

/-- No mails, no items and nothing under way. -/
def empty : Economy := ⟨fun _ => ⟨[], false⟩, fun _ => ⟨∅, none, false⟩, [], fun _ => []⟩

/-- Of three pieces two are left, and no more than the three are anywhere. -/
theorem giftUsed_covered : ∃ s : Economy, count (s.players 5).items 7 = 2 ∧ total (s.sent 5) 7 = 3
    ∧ s.held 5 7 ≤ 3 := by
  have run : ∃ s, System.follow Exact (step (.merge Mail Mail.mailId)) empty giftUsed = some s
      ∧ count (s.players 5).items 7 = 2 ∧ total (s.sent 5) 7 = 3 := by
    decide +kernel
  obtain ⟨s, followed, has, sent⟩ := run
  have checked : empty.Checked := { mailboxes := by simp [empty, Formed], granting := by simp [empty] }
  have covered := (nothing_is_made checked (System.run_of_follow followed) 5 7).1
  have nothing : empty.held 5 7 = 0 ∧ total (empty.sent 5) 7 = 0 := by decide
  rw [sent] at covered
  exact ⟨s, has, sent, by omega⟩

end Economy

end Xkk.Public
