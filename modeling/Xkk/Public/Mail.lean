import Xkk.Lib.Transition
import Xkk.Protocol.Messages

/-! # The mails of one player

Public keeps the mails of a player in one aggregate.  Every operation of the
mail service runs as one section under the lock of the aggregate: it reads or
replaces the mails, and reports whether they have changed.

`Mailroom` runs the operations on one aggregate that stays resident.  Beside it
are the ids that `new_mail_id` has returned or that were there from the start,
and what the claims have handed out.
-/

namespace Xkk.Public

open Xkk.Lib Xkk.Protocol

def MAIL_READ : Int := 1

def MAIL_CLAIMED : Int := 2

def DEFAULT_MAIL_LIFETIME : Int := 30 * 24 * 60 * 60

def MAX_REQUEST_MAILS : Nat := 100

def MAX_MAILS_PER_PLAYER : Nat := 200

/-- `sort_unstable_by_key`: the order of equal keys is not specified. -/
structure UnstableSort (α : Type) (key : α → Int) where
  sort : List α → List α
  perm : ∀ l, (sort l).Perm l
  sorted : ∀ l, (sort l).Pairwise fun a b => key a ≤ key b

/-- A stable sort is one of the orders that are allowed. -/
def UnstableSort.merge (α : Type) (key : α → Int) : UnstableSort α key where
  sort l := l.mergeSort fun a b => decide (key a ≤ key b)
  perm l := List.mergeSort_perm l _
  sorted l := by
    have sorted : (l.mergeSort fun a b => decide (key a ≤ key b)).Pairwise
        fun a b => decide (key a ≤ key b) = true := by
      apply List.pairwise_mergeSort
      · intro a b c first second
        simp only [decide_eq_true_eq] at first second ⊢
        omega
      · intro a b
        simp only [Bool.or_eq_true, decide_eq_true_eq]
        omega
    exact sorted.imp (by simp)

/-! ## Operations -/

def validMailIds (mailIds : List Int) : Option (List Int) :=
  if mailIds.isEmpty ∨ mailIds.length > MAX_REQUEST_MAILS then none
  else if mailIds.all (· > 0) ∧ mailIds.Nodup then some mailIds
  else none

def playerGid (head : RpcHead) : Option Int :=
  if head.gid.toNat < 2 ^ 63 ∧ head.playerSession.toNat < 2 ^ 63
      ∧ 0 < head.gid.toNat ∧ 0 < head.playerSession.toNat then some head.gid.toNat
  else none

def listMails (order : UnstableSort Mail Mail.mailId) (mails : List Mail) (now : Int) : List Mail :=
  order.sort (mails.filter fun mail => mail.endTime = 0 || mail.endTime > now)

/-- A mail that the request names and that is not read yet. -/
def isUnread (mailIds : List Int) (mail : Mail) : Bool := mail.mailId ∈ mailIds && mail.state < MAIL_READ

/-- The ids of the mails that have changed, and the mails. -/
def readMails (mails : List Mail) (mailIds : List Int) : List Int × List Mail :=
  ((mails.filter (isUnread mailIds)).map (·.mailId),
    mails.map fun mail => if isUnread mailIds mail then { mail with state := MAIL_READ } else mail)

def deleteMails (mails : List Mail) (mailIds : List Int) : List Int × List Mail :=
  ((mails.filter (·.mailId ∈ mailIds)).map (·.mailId), mails.filter (·.mailId ∉ mailIds))

def mailOf (mails : List Mail) (mailId : Int) : Option Mail := mails.find? (·.mailId = mailId)

/-- The first loop of `claim_mails`, which collects the attachments. -/
def collect (mails : List Mail) (now : Int) : List Int → List Item → Except Status (List Item)
  | [], attachments => .ok attachments
  | mailId :: rest, attachments =>
    match mailOf mails mailId with
    | none => .error (errorStatus Code.NOT_FOUND "mail not found")
    | some mail =>
      if mail.endTime ≠ 0 ∧ mail.endTime ≤ now ∨ mail.state ≥ MAIL_CLAIMED then
        .error (errorStatus Code.CONFLICT "mail cannot be claimed")
      else collect mails now rest (attachments ++ mail.attachments)

/-- The second loop. -/
def markClaimed (mails : List Mail) (mailIds : List Int) : List Mail :=
  mails.map fun mail => if mail.mailId ∈ mailIds then { mail with state := MAIL_CLAIMED } else mail

def claimMails (mails : List Mail) (mailIds : List Int) (now : Int) :
    (Except Status (List Item) × Bool) × List Mail :=
  match collect mails now mailIds [] with
  | .error status => ((.error status, false), mails)
  | .ok attachments => ((.ok attachments, true), markClaimed mails mailIds)

def invalidMail (gid : Int) (mail : Mail) : Bool :=
  gid ≤ 0 || mail.title.isEmpty || mail.title.utf8ByteSize > 128 || mail.content.utf8ByteSize > 4096
    || mail.attachments.any fun item => item.itemId ≤ 0 || item.count ≤ 0

/-- The section of `send_mail`; `mailId` is what `new_mail_id` returns. -/
def postMail (order : UnstableSort Mail Mail.mailId) (mails : List Mail) (message : Mail) (mailId now : Int) :
    (Except Status Mail × Bool) × List Mail :=
  let sendTime := if message.sendTime = 0 then now else message.sendTime
  let endTime := if message.endTime = 0 then wrapI64 (sendTime + DEFAULT_MAIL_LIFETIME) else message.endTime
  if endTime ≤ now then ((.error (errorStatus Code.INVALID_ARGUMENT "mail is already expired"), false), mails)
  else
    let message := { message with mailId := mailId, sendTime := sendTime, endTime := endTime, state := 0 }
    let mails := order.sort (mails ++ [message])
    ((.ok message, true), mails.drop (mails.length - MAX_MAILS_PER_PLAYER))

/-! ## The aggregate -/

structure PublicPlayer where
  mails : List Mail
  dirty : Bool
deriving DecidableEq, Repr

namespace PublicPlayer

/-- `PublicPlayer::update`, without the registration in the dirty set. -/
def update {R : Type} (p : PublicPlayer) (f : List Mail → (R × Bool) × List Mail) : R × PublicPlayer :=
  let ((result, changed), mails) := f p.mails
  (result, { mails := mails, dirty := p.dirty || changed })

/-- `MailService::read` -/
def read (p : PublicPlayer) (mailIds : List Int) : Except Status (List Int) × PublicPlayer :=
  match validMailIds mailIds with
  | none => (.error (errorStatus Code.INVALID_ARGUMENT "invalid mail ids"), p)
  | some mailIds =>
    p.update fun mails =>
      let (changed, mails) := readMails mails mailIds
      ((.ok changed, !changed.isEmpty), mails)

/-- `MailService::delete` -/
def delete (p : PublicPlayer) (mailIds : List Int) : Except Status (List Int) × PublicPlayer :=
  match validMailIds mailIds with
  | none => (.error (errorStatus Code.INVALID_ARGUMENT "invalid mail ids"), p)
  | some mailIds =>
    p.update fun mails =>
      let (removed, mails) := deleteMails mails mailIds
      ((.ok removed, !removed.isEmpty), mails)

/-- `MailService::claim` up to the end of its section. -/
def claim (p : PublicPlayer) (mailIds : List Int) (now : Int) : Except Status (List Item) × PublicPlayer :=
  match validMailIds mailIds with
  | none => (.error (errorStatus Code.INVALID_ARGUMENT "invalid mail ids"), p)
  | some mailIds => p.update fun mails => claimMails mails mailIds now

/-- `MailService::send_mail` up to the end of its section. -/
def sendMail (order : UnstableSort Mail Mail.mailId) (p : PublicPlayer) (gid : Int) (message : Option Mail)
    (mailId now : Int) : Except Status Mail × PublicPlayer :=
  match message with
  | none => (.error (errorStatus Code.INVALID_ARGUMENT "mail is required"), p)
  | some message =>
    if invalidMail gid message then (.error (errorStatus Code.INVALID_ARGUMENT "invalid mail request"), p)
    else p.update fun mails => postMail order mails message mailId now

/-! ## What a claim does -/

/-- A mail that `claim_mails` lets pass. -/
def Claimable (now : Int) (mail : Mail) : Prop :=
  ¬ (mail.endTime ≠ 0 ∧ mail.endTime ≤ now) ∧ mail.state < MAIL_CLAIMED

theorem mailOf_some {mails : List Mail} {mailId : Int} {mail : Mail} (found : mailOf mails mailId = some mail) :
    mail ∈ mails ∧ mail.mailId = mailId :=
  ⟨List.mem_of_find?_eq_some found, by simpa using List.find?_some found⟩

theorem collect_ok {mails : List Mail} {now : Int} {mailIds : List Int} {before items : List Item}
    (collected : collect mails now mailIds before = .ok items) :
    ∃ chosen : List Mail, chosen.map (·.mailId) = mailIds
      ∧ (∀ mail ∈ chosen, mailOf mails mail.mailId = some mail ∧ Claimable now mail)
      ∧ items = before ++ chosen.flatMap (·.attachments) := by
  induction mailIds generalizing before with
  | nil =>
    cases collected
    exact ⟨[], rfl, by simp, by simp⟩
  | cons mailId rest ih =>
    rw [collect] at collected
    cases found : mailOf mails mailId with
    | none => simp [found] at collected
    | some mail =>
      simp only [found] at collected
      have sameId := (mailOf_some found).2
      by_cases blocked : mail.endTime ≠ 0 ∧ mail.endTime ≤ now ∨ mail.state ≥ MAIL_CLAIMED
      · rw [if_pos blocked] at collected
        cases collected
      · rw [if_neg blocked] at collected
        obtain ⟨chosen, ids, all, rfl⟩ := ih collected
        obtain ⟨current, unclaimed⟩ := not_or.mp blocked
        refine ⟨mail :: chosen, ?_, ?_, ?_⟩
        · simp [ids, sameId]
        · intro other member
          rcases List.mem_cons.mp member with rfl | member
          · exact ⟨sameId ▸ found, current, Int.not_le.mp unclaimed⟩
          · exact all other member
        · simp [List.append_assoc]

/-- A claim fails and changes nothing, or it marks the mails that it names and
    returns their attachments in the order of the request. -/
def Claims (p : PublicPlayer) (mailIds : List Int) (now : Int)
    (outcome : Except Status (List Item) × PublicPlayer) : Prop :=
  (∃ status, outcome = (.error status, p))
  ∨ ∃ chosen : List Mail, chosen.map (·.mailId) = mailIds
      ∧ (∀ mail ∈ chosen, mailOf p.mails mail.mailId = some mail ∧ Claimable now mail)
      ∧ outcome = (.ok (chosen.flatMap (·.attachments)), ⟨markClaimed p.mails mailIds, true⟩)

theorem validMailIds_some {mailIds valid : List Int} (isValid : validMailIds mailIds = some valid) :
    valid = mailIds ∧ mailIds.Nodup := by
  unfold validMailIds at isValid
  split at isValid
  case isTrue => cases isValid
  case isFalse =>
    rw [Option.ite_none_right_eq_some] at isValid
    exact ⟨(Option.some.inj isValid.2).symm, isValid.1.2⟩

theorem claim_cases (p : PublicPlayer) (mailIds : List Int) (now : Int) :
    Claims p mailIds now (p.claim mailIds now) := by
  unfold claim
  cases valid : validMailIds mailIds with
  | none => exact .inl ⟨_, rfl⟩
  | some ids =>
    obtain ⟨rfl, _⟩ := validMailIds_some valid
    simp only [update, claimMails]
    cases collected : collect p.mails now ids [] with
    | error status =>
      apply Or.inl
      exact ⟨status, by simp⟩
    | ok items =>
      obtain ⟨chosen, sameIds, all, rfl⟩ := collect_ok collected
      apply Or.inr
      exact ⟨chosen, sameIds, all, by simp⟩

/-- A claim that succeeds names no mail twice. -/
theorem claim_nodup {p after : PublicPlayer} {mailIds : List Int} {now : Int} {items : List Item}
    (claimed : p.claim mailIds now = (.ok items, after)) : mailIds.Nodup := by
  unfold claim at claimed
  cases valid : validMailIds mailIds with
  | none => simp [valid] at claimed
  | some ids => exact (validMailIds_some valid).2

/-! ## What the other operations do -/

/-- Every mail that is left was there before, and has not become claimable. -/
def Retains (before after : List Mail) : Prop :=
  ∀ mail ∈ after, ∃ old ∈ before, old.mailId = mail.mailId
    ∧ (old.state ≥ MAIL_CLAIMED → mail.state ≥ MAIL_CLAIMED)

theorem retains_of_subset {before after : List Mail} (subset : after ⊆ before) : Retains before after := by
  intro mail member
  exact ⟨mail, subset member, rfl, id⟩

theorem retains_read (p : PublicPlayer) (mailIds : List Int) : Retains p.mails (p.read mailIds).2.mails := by
  unfold read
  cases validMailIds mailIds with
  | none => exact retains_of_subset (List.Subset.refl _)
  | some ids =>
    intro mail member
    simp only [update, readMails] at member
    obtain ⟨old, isOld, rfl⟩ := List.mem_map.mp member
    refine ⟨old, isOld, ?_⟩
    by_cases unread : isUnread ids old = true
    · rw [if_pos unread]
      refine ⟨rfl, ?_⟩
      -- only a mail that is not even read is touched
      intro claimed
      simp only [isUnread, Bool.and_eq_true, decide_eq_true_eq] at unread
      have early := unread.2
      simp only [MAIL_READ, MAIL_CLAIMED] at early claimed
      omega
    · rw [if_neg unread]
      exact ⟨rfl, id⟩

theorem retains_delete (p : PublicPlayer) (mailIds : List Int) :
    Retains p.mails (p.delete mailIds).2.mails := by
  unfold delete
  cases validMailIds mailIds with
  | none => exact retains_of_subset (List.Subset.refl _)
  | some ids => exact retains_of_subset (List.filter_subset_self _)

theorem postMail_mem (order : UnstableSort Mail Mail.mailId) (mails : List Mail) (message : Mail)
    (mailId now : Int) :
    ∀ mail ∈ (postMail order mails message mailId now).2, mail ∈ mails ∨ mail.mailId = mailId := by
  intro mail member
  unfold postMail at member
  extract_lets sendTime endTime at member
  by_cases expired : endTime ≤ now
  · rw [if_pos expired] at member
    exact .inl member
  · rw [if_neg expired] at member
    dsimp only at member
    have added := (order.perm _).mem_iff.mp (List.mem_of_mem_drop member)
    rcases List.mem_append.mp added with old | new
    · exact .inl old
    · rw [List.mem_singleton.mp new]
      exact .inr rfl

/-- `send_mail` adds at most one mail, under the new id. -/
theorem sendMail_mem (order : UnstableSort Mail Mail.mailId) (p : PublicPlayer) (gid : Int)
    (message : Option Mail) (mailId now : Int) :
    ∀ mail ∈ (p.sendMail order gid message mailId now).2.mails, mail ∈ p.mails ∨ mail.mailId = mailId := by
  intro mail member
  unfold sendMail at member
  cases message with
  | none => exact .inl member
  | some message =>
    dsimp only at member
    by_cases invalid : invalidMail gid message = true
    · rw [if_pos invalid] at member
      exact .inl member
    · rw [if_neg invalid] at member
      exact postMail_mem order p.mails message mailId now mail member

end PublicPlayer

/-! ## Runs -/

/-- A claim that succeeded. -/
structure Claimed where
  mailIds : List Int
  attachments : List Item
deriving DecidableEq, Repr

structure Mailroom where
  player : PublicPlayer
  used : List Int
  claims : List Claimed
deriving DecidableEq, Repr

namespace Mailroom

inductive Op where
  | send (gid : Int) (message : Option Mail) (mailId now : Int)
  | list (now : Int)
  | read (mailIds : List Int)
  | delete (mailIds : List Int)
  | claim (mailIds : List Int) (now : Int)
  | snapshot                              -- `take_dirty_snapshot`
deriving DecidableEq, Repr

def step (order : UnstableSort Mail Mail.mailId) (s : Mailroom) : Op → Mailroom
  | .send gid message mailId now =>
    { s with player := (s.player.sendMail order gid message mailId now).2, used := s.used ++ [mailId] }
  | .list _ => s
  | .read mailIds => { s with player := (s.player.read mailIds).2 }
  | .delete mailIds => { s with player := (s.player.delete mailIds).2 }
  | .claim mailIds now =>
    match s.player.claim mailIds now with
    | (.ok attachments, player) =>
      { s with player := player, claims := s.claims ++ [⟨mailIds, attachments⟩] }
    | (.error _, player) => { s with player := player }
  | .snapshot => { s with player := { s.player with dirty := false } }

/-- The aggregate is loaded with any mails. -/
def loaded (mails : List Mail) : Mailroom := ⟨⟨mails, false⟩, mails.map (·.mailId), []⟩

def system (order : UnstableSort Mail Mail.mailId) : System Mailroom Op :=
  .ofFun (fun s => ∃ mails, s = loaded mails) fun s op => some (s.step order op)

/-- `new_mail_id` returns a positive id that has not been used. -/
def Fresh (s : Mailroom) : Op → Prop
  | .send _ _ mailId _ => 0 < mailId ∧ mailId ∉ s.used
  | _ => True

instance (s : Mailroom) (op : Op) : Decidable (s.Fresh op) :=
  match op with
  | .send .. => inferInstanceAs (Decidable (_ ∧ _))
  | .list _ | .read _ | .delete _ | .claim .. | .snapshot => .isTrue trivial

/-! ## At most once -/

/-- Every id that was ever claimed is used up. -/
structure Spent (s : Mailroom) : Prop where
  used : ∀ mail ∈ s.player.mails, mail.mailId ∈ s.used
  claimedUsed : ∀ mailId ∈ s.claims.flatMap (·.mailIds), mailId ∈ s.used
  claimed : ∀ mail ∈ s.player.mails, mail.mailId ∈ s.claims.flatMap (·.mailIds) → mail.state ≥ MAIL_CLAIMED
  once : (s.claims.flatMap (·.mailIds)).Nodup

variable {s : Mailroom}

theorem spent_loaded (mails : List Mail) : Spent (loaded mails) where
  used := by
    intro mail member
    exact List.mem_map_of_mem member
  claimedUsed := by intro mailId member; cases member
  claimed := by intro mail _ member; cases member
  once := .nil

theorem Spent.retain (spent : Spent s) {p : PublicPlayer}
    (retains : PublicPlayer.Retains s.player.mails p.mails) : Spent { s with player := p } where
  used := by
    intro mail member
    obtain ⟨old, isOld, sameId, _⟩ := retains mail member
    exact sameId ▸ spent.used old isOld
  claimedUsed := spent.claimedUsed
  claimed := by
    intro mail member isClaimed
    obtain ⟨old, isOld, sameId, stays⟩ := retains mail member
    rw [← sameId] at isClaimed
    exact stays (spent.claimed old isOld isClaimed)
  once := spent.once

theorem Spent.send (spent : Spent s) (order : UnstableSort Mail Mail.mailId) {gid : Int}
    {message : Option Mail} {mailId now : Int} (fresh : mailId ∉ s.used) :
    Spent (s.step order (.send gid message mailId now)) where
  used := by
    intro mail member
    apply List.mem_append.mpr
    rcases PublicPlayer.sendMail_mem order s.player gid message mailId now mail member with old | new
    · exact .inl (spent.used mail old)
    · exact .inr (List.mem_singleton.mpr new)
  claimedUsed := by
    intro id isClaimed
    exact List.mem_append_left _ (spent.claimedUsed id isClaimed)
  claimed := by
    intro mail member isClaimed
    rcases PublicPlayer.sendMail_mem order s.player gid message mailId now mail member with old | new
    · exact spent.claimed mail old isClaimed
    · exact absurd (spent.claimedUsed _ isClaimed) (new ▸ fresh)
  once := spent.once

theorem Spent.claim (spent : Spent s) (order : UnstableSort Mail Mail.mailId) (mailIds : List Int) (now : Int) :
    Spent (s.step order (.claim mailIds now)) := by
  rcases s.player.claim_cases mailIds now with ⟨status, outcome⟩ | ⟨chosen, sameIds, all, outcome⟩
  · simp only [step, outcome]
    exact spent
  · have distinct := PublicPlayer.claim_nodup outcome
    simp only [step, outcome]
    have chosenOf : ∀ mailId ∈ mailIds, ∃ mail ∈ s.player.mails, mail.mailId = mailId
        ∧ mail.state < MAIL_CLAIMED := by
      intro mailId member
      rw [← sameIds] at member
      obtain ⟨mail, isChosen, rfl⟩ := List.mem_map.mp member
      obtain ⟨found, _, unclaimed⟩ := all mail isChosen
      exact ⟨mail, (PublicPlayer.mailOf_some found).1, rfl, unclaimed⟩
    have ids : (s.claims ++ [(⟨mailIds, chosen.flatMap (·.attachments)⟩ : Claimed)]).flatMap (·.mailIds) =
        s.claims.flatMap (·.mailIds) ++ mailIds := by simp
    refine ⟨?_, ?_, ?_, ?_⟩
    · intro mail member
      obtain ⟨old, isOld, rfl⟩ := List.mem_map.mp member
      have oldUsed := spent.used old isOld
      split <;> exact oldUsed
    · rw [ids]
      intro mailId member
      rcases List.mem_append.mp member with before | now
      · exact spent.claimedUsed mailId before
      · obtain ⟨mail, isMail, rfl, _⟩ := chosenOf mailId now
        exact spent.used mail isMail
    · rw [ids]
      intro mail member isClaimed
      obtain ⟨old, isOld, rfl⟩ := List.mem_map.mp member
      by_cases named : old.mailId ∈ mailIds
      · simp [named]
      · rw [if_neg named] at isClaimed ⊢
        rcases List.mem_append.mp isClaimed with before | now
        · exact spent.claimed old isOld before
        · exact absurd now named
    · rw [ids]
      apply List.nodup_append.mpr
      refine ⟨spent.once, distinct, ?_⟩
      intro mailId before other now same
      -- what was claimed before could not be claimed again
      obtain ⟨mail, isMail, rfl, unclaimed⟩ := chosenOf other now
      have claimed := spent.claimed mail isMail (same ▸ before)
      omega

theorem spent_step (order : UnstableSort Mail Mail.mailId) (spent : Spent s) {op : Op} (fresh : s.Fresh op) :
    Spent (s.step order op) := by
  cases op with
  | send gid message mailId now => exact spent.send order fresh.2
  | list now => exact spent
  | read mailIds => exact spent.retain (PublicPlayer.retains_read s.player mailIds)
  | delete mailIds => exact spent.retain (PublicPlayer.retains_delete s.player mailIds)
  | claim mailIds now => exact spent.claim order mailIds now
  | snapshot => exact spent.retain (PublicPlayer.retains_of_subset (List.Subset.refl _))

theorem spent_of_reach {order : UnstableSort Mail Mail.mailId} (reached : (system order).Reach Fresh s) :
    Spent s := by
  apply reached.inv
  · rintro _ ⟨mails, rfl⟩
    exact spent_loaded mails
  · intro s op t spent fresh taken
    obtain rfl := Option.some.inj taken
    exact spent_step order spent fresh

/-- Whatever was sent, listed, read, deleted and claimed before: a claim changes
    nothing or hands out what it names, and no mail is handed out twice. -/
theorem attachments_handed_out_once (order : UnstableSort Mail Mail.mailId) {s : Mailroom}
    (reached : (system order).Reach Fresh s) :
    (∀ mailIds now, PublicPlayer.Claims s.player mailIds now (s.player.claim mailIds now))
    ∧ (s.claims.flatMap (·.mailIds)).Nodup :=
  ⟨s.player.claim_cases, (spent_of_reach reached).once⟩

/-- A mail is sent, read, claimed and claimed again. -/
def claimTwice : List Op :=
  [.send 5 (some ⟨0, "hello", "", 0, 0, 0, [⟨7, 2, 0⟩]⟩) 1 100, .read [1], .claim [1] 101, .claim [1] 102]

theorem claimTwice_once : ∃ s : Mailroom, s.claims = [⟨[1], [⟨7, 2, 0⟩]⟩]
    ∧ (∀ mailIds now, PublicPlayer.Claims s.player mailIds now (s.player.claim mailIds now))
    ∧ (s.claims.flatMap (·.mailIds)).Nodup := by
  have run : ∃ s, System.follow Fresh (fun s op => some (s.step (.merge Mail Mail.mailId) op)) (loaded [])
      claimTwice = some s ∧ s.claims = [⟨[1], [⟨7, 2, 0⟩]⟩] := by
    decide +kernel
  obtain ⟨s, followed, claims⟩ := run
  exact ⟨s, claims, attachments_handed_out_once _ (System.reach_of_follow ⟨[], rfl⟩ followed)⟩

end Mailroom

end Xkk.Public
