import Xkk.Public.Claim

/-! # What a mailbox keeps

The mails of a player are kept in the order of their ids, and no more than
`MAX_MAILS_PER_PLAYER` of them.  `send_mail` sorts after each push and drains
what is too many from the front, so it drains the oldest; the other operations
only drop mails or change their state.

`list` and `claim_mails` each spell out when a mail has expired.  The two tests
are opposites, so what a player is shown can be claimed and what is hidden
cannot.
-/

namespace Xkk.Public

open Xkk.Lib Xkk.Protocol

structure Retained (mails : List Mail) : Prop where
  positive : ∀ mail ∈ mails, 0 < mail.mailId
  rising : mails.Pairwise fun a b => a.mailId < b.mailId
  bounded : mails.length ≤ MAX_MAILS_PER_PLAYER

/-! ## Ids that rise -/

theorem eq_of_mailId {mails : List Mail} (rising : mails.Pairwise fun a b => a.mailId < b.mailId)
    {a b : Mail} (left : a ∈ mails) (right : b ∈ mails) (same : a.mailId = b.mailId) : a = b := by
  have distinct : (mails.map Mail.mailId).Nodup := by
    rw [List.Nodup, List.pairwise_map]
    exact rising.imp fun less equal => by omega
  exact List.inj_on_of_nodup_map distinct left right same

/-- There is only one order left for the sort. -/
theorem sort_of_rising (order : UnstableSort Mail Mail.mailId) {mails : List Mail}
    (rising : mails.Pairwise fun a b => a.mailId < b.mailId) : order.sort mails = mails := by
  have ordered : mails.Pairwise fun a b => a.mailId ≤ b.mailId := rising.imp fun less => by omega
  refine List.Perm.eq_of_pairwise ?_ (order.sorted mails) ordered (order.perm mails)
  intro a b left right up down
  exact eq_of_mailId rising ((order.perm mails).mem_iff.mp left) right (by omega)

theorem rising_append {mails : List Mail} (rising : mails.Pairwise fun a b => a.mailId < b.mailId)
    {sent : Mail} (newest : ∀ mail ∈ mails, mail.mailId < sent.mailId) :
    (mails ++ [sent]).Pairwise fun a b => a.mailId < b.mailId := by
  rw [List.pairwise_append]
  refine ⟨rising, List.pairwise_singleton _ _, ?_⟩
  intro a old b new
  rw [List.mem_singleton.mp new]
  exact newest a old

theorem mailOf_of_mem {mails : List Mail} (rising : mails.Pairwise fun a b => a.mailId < b.mailId)
    {mail : Mail} (member : mail ∈ mails) : mailOf mails mail.mailId = some mail := by
  cases found : mailOf mails mail.mailId with
  | none =>
    have missing := List.find?_eq_none.mp found mail member
    simp at missing
  | some other =>
    obtain ⟨isMail, sameId⟩ := PublicPlayer.mailOf_some found
    rw [eq_of_mailId rising isMail member sameId]

/-! ## Operations -/

namespace Retained

variable {mails : List Mail}

theorem filter (retained : Retained mails) (keep : Mail → Bool) : Retained (mails.filter keep) where
  positive mail member := retained.positive mail (List.mem_of_mem_filter member)
  rising := retained.rising.sublist List.filter_sublist
  bounded := Nat.le_trans (List.length_filter_le keep mails) retained.bounded

/-- A change of the states leaves the ids alone. -/
theorem map (retained : Retained mails) {change : Mail → Mail}
    (sameId : ∀ mail, (change mail).mailId = mail.mailId) : Retained (mails.map change) where
  positive mail member := by
    obtain ⟨old, isOld, rfl⟩ := List.mem_map.mp member
    rw [sameId]
    exact retained.positive old isOld
  rising := by
    rw [List.pairwise_map]
    exact retained.rising.imp fun less => by rwa [sameId, sameId]
  bounded := by
    rw [List.length_map]
    exact retained.bounded

theorem read {p : PublicPlayer} (retained : Retained p.mails) (mailIds : List Int) :
    Retained (p.read mailIds).2.mails := by
  rw [PublicPlayer.read]
  cases validMailIds mailIds with
  | none => exact retained
  | some ids =>
    apply retained.map
    intro mail
    split <;> rfl

theorem delete {p : PublicPlayer} (retained : Retained p.mails) (mailIds : List Int) :
    Retained (p.delete mailIds).2.mails := by
  rw [PublicPlayer.delete]
  cases validMailIds mailIds with
  | none => exact retained
  | some ids => exact retained.filter _

theorem claim {p : PublicPlayer} (retained : Retained p.mails) (mailIds : List Int) (now : Int) :
    Retained (p.claim mailIds now).2.mails := by
  rcases p.claim_cases mailIds now with ⟨status, outcome⟩ | ⟨chosen, sameIds, all, outcome⟩
  · rw [outcome]
    exact retained
  · rw [outcome]
    apply retained.map
    intro mail
    split <;> rfl

end Retained

/-- What is stored for a request: the message with the new id, unread, and with
the times that are filled in. -/
def stamped (message : Mail) (mailId sendTime endTime : Int) : Mail :=
  { message with mailId := mailId, sendTime := sendTime, endTime := endTime, state := 0 }

/-- A send fails and changes nothing, or it appends a mail that has not expired
and drains the front down to the limit. -/
inductive Sends (p : PublicPlayer) (mailId now : Int) :
    Option Mail → Except Status Mail × PublicPlayer → Prop
  | refused (message : Option Mail) (status : Status) : Sends p mailId now message (.error status, p)
  | stored (message : Mail) {sendTime endTime : Int} (current : now < endTime) :
      Sends p mailId now (some message)
        (.ok (stamped message mailId sendTime endTime),
          ⟨(p.mails ++ [stamped message mailId sendTime endTime]).drop
            (p.mails.length + 1 - MAX_MAILS_PER_PLAYER), true⟩)

variable (order : UnstableSort Mail Mail.mailId) {p : PublicPlayer} {mailId : Int}

/-- The section of a send, with the times that it fills in. -/
theorem postMail_cases (mails : List Mail) (message : Mail) (mailId now : Int) :
    (∃ status, postMail order mails message mailId now = ((.error status, false), mails))
      ∨ ∃ sendTime endTime, now < endTime
          ∧ postMail order mails message mailId now =
              ((.ok (stamped message mailId sendTime endTime), true),
                (order.sort (mails ++ [stamped message mailId sendTime endTime])).drop
                  ((order.sort (mails ++ [stamped message mailId sendTime endTime])).length
                    - MAX_MAILS_PER_PLAYER)) := by
  simp only [postMail]
  generalize (if message.sendTime = 0 then now else message.sendTime) = sendTime
  generalize (if message.endTime = 0 then wrapI64 (sendTime + DEFAULT_MAIL_LIFETIME)
    else message.endTime) = endTime
  by_cases expired : endTime ≤ now
  · rw [if_pos expired]
    exact .inl ⟨_, rfl⟩
  · rw [if_neg expired]
    exact .inr ⟨sendTime, endTime, Int.not_le.mp expired, rfl⟩

theorem sendMail_cases (retained : Retained p.mails) (newest : ∀ mail ∈ p.mails, mail.mailId < mailId)
    (gid : Int) (message : Option Mail) (now : Int) :
    Sends p mailId now message (p.sendMail order gid message mailId now) := by
  cases message with
  | none => exact .refused _ _
  | some message =>
    rw [PublicPlayer.sendMail]
    by_cases invalid : invalidMail gid message = true
    · simp only [if_pos invalid]
      exact .refused _ _
    · simp only [if_neg invalid, PublicPlayer.update]
      rcases postMail_cases order p.mails message mailId now with
        ⟨status, failed⟩ | ⟨sendTime, endTime, current, posted⟩
      · simp only [failed, Bool.or_false]
        exact .refused _ _
      · have later : ∀ mail ∈ p.mails, mail.mailId < (stamped message mailId sendTime endTime).mailId := newest
        have sorted := sort_of_rising order (rising_append retained.rising later)
        simp only [posted, Bool.or_true, sorted, List.length_append, List.length_singleton]
        exact .stored message current

/-- Whatever the id: a send that answers an error has changed nothing. -/
theorem sendMail_error {gid now : Int} {message : Option Mail} {status : Status} {after : PublicPlayer}
    (failed : p.sendMail order gid message mailId now = (.error status, after)) : after = p := by
  cases message with
  | none => exact (Prod.ext_iff.mp failed).2.symm
  | some message =>
    rw [PublicPlayer.sendMail] at failed
    by_cases invalid : invalidMail gid message = true
    · simp only [if_pos invalid] at failed
      exact (Prod.ext_iff.mp failed).2.symm
    · simp only [if_neg invalid, PublicPlayer.update] at failed
      rcases postMail_cases order p.mails message mailId now with ⟨_, refused⟩ | ⟨_, _, _, posted⟩
      · simp only [refused, Bool.or_false] at failed
        exact (Prod.ext_iff.mp failed).2.symm
      · simp only [posted] at failed
        cases failed

/-- One mail too many at most, and it is not the new one. -/
theorem mem_drop_append {mails : List Mail} (bounded : mails.length ≤ MAX_MAILS_PER_PLAYER) (sent : Mail) :
    sent ∈ (mails ++ [sent]).drop (mails.length + 1 - MAX_MAILS_PER_PLAYER) := by
  have within : mails.length + 1 - MAX_MAILS_PER_PLAYER ≤ mails.length := by
    simp only [MAX_MAILS_PER_PLAYER] at bounded ⊢
    omega
  rw [List.drop_append_of_le_length within]
  exact List.mem_append_right _ (List.mem_singleton_self sent)

theorem Retained.append (retained : Retained p.mails) {sent : Mail} (positive : 0 < sent.mailId)
    (newest : ∀ mail ∈ p.mails, mail.mailId < sent.mailId) :
    Retained ((p.mails ++ [sent]).drop (p.mails.length + 1 - MAX_MAILS_PER_PLAYER)) where
  positive mail member := by
    rcases List.mem_append.mp (List.mem_of_mem_drop member) with old | new
    · exact retained.positive mail old
    · rw [List.mem_singleton.mp new]
      exact positive
  rising := (rising_append retained.rising newest).sublist (List.drop_sublist _ _)
  bounded := by
    rw [List.length_drop, List.length_append, List.length_singleton]
    omega

theorem Retained.send (retained : Retained p.mails) (positive : 0 < mailId)
    (newest : ∀ mail ∈ p.mails, mail.mailId < mailId) (gid : Int) (message : Option Mail) (now : Int) :
    Retained (p.sendMail order gid message mailId now).2.mails := by
  have sends := sendMail_cases order retained newest gid message now
  generalize p.sendMail order gid message mailId now = outcome at sends
  cases sends with
  | refused status => exact retained
  | @stored message sendTime endTime current =>
    have posted : 0 < (stamped message mailId sendTime endTime).mailId := positive
    dsimp only
    exact retained.append posted newest

/-! ## Listed and claimable -/

theorem mem_listMails {mails : List Mail} {now : Int} {mail : Mail} :
    mail ∈ listMails order mails now ↔ mail ∈ mails ∧ (mail.endTime = 0 ∨ mail.endTime > now) := by
  rw [listMails, (order.perm _).mem_iff, List.mem_filter]
  simp

/-- The two tests for expiry are opposites. -/
theorem claimable_iff_listed {mails : List Mail} {now : Int} {mail : Mail} (member : mail ∈ mails) :
    PublicPlayer.Claimable now mail ↔ mail ∈ listMails order mails now ∧ mail.state < MAIL_CLAIMED := by
  rw [mem_listMails, PublicPlayer.Claimable]
  constructor
  · rintro ⟨current, unclaimed⟩
    exact ⟨⟨member, by omega⟩, unclaimed⟩
  · rintro ⟨⟨_, current⟩, unclaimed⟩
    exact ⟨by omega, unclaimed⟩

/-- A claim opens the mails that are listed and not claimed yet. -/
theorem opens_iff_listed (retained : Retained p.mails) (mailIds : List Int) (now : Int) :
    Opens p mailIds now
      ↔ (validMailIds mailIds).isSome = true
        ∧ ∀ id ∈ mailIds, ∃ mail ∈ listMails order p.mails now,
            mail.mailId = id ∧ mail.state < MAIL_CLAIMED := by
  refine and_congr_right fun _ => forall_congr' fun id => imp_congr_right fun _ => ?_
  constructor
  · rintro ⟨mail, found, claimable⟩
    obtain ⟨member, sameId⟩ := PublicPlayer.mailOf_some found
    obtain ⟨listed, unclaimed⟩ := (claimable_iff_listed order member).mp claimable
    exact ⟨mail, listed, sameId, unclaimed⟩
  · rintro ⟨mail, listed, rfl, unclaimed⟩
    have member := ((mem_listMails order).mp listed).1
    exact ⟨mail, mailOf_of_mem retained.rising member,
      (claimable_iff_listed order member).mpr ⟨listed, unclaimed⟩⟩

theorem validMailIds_singleton {id : Int} (positive : 0 < id) : validMailIds [id] = some [id] := by
  simp [validMailIds, MAX_REQUEST_MAILS, positive]

/-! ## Runs -/

namespace Mailroom

/-- `new_mail_id` returns a positive id above every earlier one. -/
def Rising (s : Mailroom) : Op → Prop
  | .send _ _ mailId _ => 0 < mailId ∧ ∀ id ∈ s.used, id < mailId
  | _ => True

instance (s : Mailroom) (op : Op) : Decidable (s.Rising op) :=
  match op with
  | .send .. => inferInstanceAs (Decidable (_ ∧ _))
  | .list _ | .read _ | .delete _ | .claim .. | .snapshot => .isTrue trivial

theorem Rising.fresh {s : Mailroom} {op : Op} (rising : s.Rising op) : s.Fresh op := by
  cases op with
  | send gid message mailId now =>
    obtain ⟨positive, above⟩ := rising
    exact ⟨positive, fun used => absurd (above mailId used) (by omega)⟩
  | list now => trivial
  | read mailIds => trivial
  | delete mailIds => trivial
  | claim mailIds now => trivial
  | snapshot => trivial

/-- The aggregate is loaded with mails in order and within the limit. -/
def retention (order : UnstableSort Mail Mail.mailId) : System Mailroom Op :=
  .ofFun (fun s => ∃ mails, Retained mails ∧ s = loaded mails) fun s op => some (s.step order op)

variable {s : Mailroom}

theorem retained_step (spent : Spent s) (retained : Retained s.player.mails) {op : Op} (rising : s.Rising op) :
    Retained (s.step order op).player.mails := by
  cases op with
  | send gid message mailId now =>
    have newest : ∀ mail ∈ s.player.mails, mail.mailId < mailId :=
      fun mail member => rising.2 mail.mailId (spent.used mail member)
    exact retained.send order rising.1 newest gid message now
  | list now => exact retained
  | read mailIds => exact retained.read mailIds
  | delete mailIds => exact retained.delete mailIds
  | claim mailIds now =>
    have claimed := retained.claim mailIds now
    rw [step]
    split
    next outcome => rwa [outcome] at claimed
    next outcome => rwa [outcome] at claimed
  | snapshot => exact retained

/-- A run of any operations keeps the mails in order and within the limit. -/
theorem retained_of_reach {order : UnstableSort Mail Mail.mailId} (reached : (retention order).Reach Rising s) :
    Spent s ∧ Retained s.player.mails := by
  refine reached.inv (I := fun s => Spent s ∧ Retained s.player.mails) ?_ ?_
  · rintro _ ⟨mails, retained, rfl⟩
    exact ⟨spent_loaded mails, retained⟩
  · rintro s op t ⟨spent, retained⟩ rising taken
    obtain rfl := Option.some.inj taken
    exact ⟨spent_step order spent rising.fresh, retained_step order spent retained rising⟩

/-- The mailbox after any operations: its ids rise within the limit, a send that
answers the mail has stored it and drained only what was too many, a send that
answers an error has done nothing, and a claim takes exactly what `list` shows
as not claimed. -/
theorem mailbox_retained (order : UnstableSort Mail Mail.mailId) {s : Mailroom}
    (reached : (retention order).Reach Rising s) :
    Retained s.player.mails
      ∧ (∀ gid message mailId now sent after, s.Rising (.send gid message mailId now) →
          s.player.sendMail order gid message mailId now = (.ok sent, after) →
          (∃ m sendTime, message = some m ∧ sent = stamped m mailId sendTime sent.endTime)
            ∧ now < sent.endTime ∧ sent ∈ after.mails
            ∧ after.mails =
                (s.player.mails ++ [sent]).drop (s.player.mails.length + 1 - MAX_MAILS_PER_PLAYER))
      ∧ (∀ gid message mailId now status after,
          s.player.sendMail order gid message mailId now = (.error status, after) → after = s.player)
      ∧ (∀ now, ∀ mail ∈ listMails order s.player.mails now, mail.state < MAIL_CLAIMED →
          ∃ items after, s.player.claim [mail.mailId] now = (.ok items, after))
      ∧ (∀ now, ∀ mail ∈ s.player.mails, mail ∉ listMails order s.player.mails now →
          ∀ mailIds, mail.mailId ∈ mailIds →
            ∃ status, s.player.claim mailIds now = (.error status, s.player)) := by
  obtain ⟨spent, retained⟩ := retained_of_reach reached
  refine ⟨retained, ?_, fun _ _ _ _ _ _ => sendMail_error order, ?_, ?_⟩
  · intro gid message mailId now sent after rising outcome
    have newest : ∀ mail ∈ s.player.mails, mail.mailId < mailId :=
      fun mail member => rising.2 mail.mailId (spent.used mail member)
    have sends := sendMail_cases order retained newest gid message now
    rw [outcome] at sends
    cases sends with
    | @stored message sendTime endTime current =>
      have present := mem_drop_append retained.bounded (stamped message mailId sendTime endTime)
      dsimp only
      exact ⟨⟨message, sendTime, rfl, rfl⟩, current, present, rfl⟩
  · intro now mail listed unclaimed
    have member := ((mem_listMails order).mp listed).1
    refine ⟨_, _, claim_of_opens ((opens_iff_listed order retained _ now).mpr ⟨?_, ?_⟩)⟩
    · rw [validMailIds_singleton (retained.positive mail member)]
      rfl
    · intro id named
      exact ⟨mail, listed, (List.mem_singleton.mp named).symm, unclaimed⟩
  · intro now mail member hidden mailIds named
    apply claim_of_not_opens
    intro opens
    have shown := ((opens_iff_listed order retained mailIds now).mp opens).2
    obtain ⟨other, listed, sameId, _⟩ := shown mail.mailId named
    have isMail := ((mem_listMails order).mp listed).1
    rw [eq_of_mailId retained.rising isMail member sameId] at listed
    exact hidden listed

/-- A mail is sent, read and deleted, and another one is sent. -/
def sentAndRead : List Op :=
  [.send 5 (some ⟨0, "hello", "", 0, 0, 0, []⟩) 1 100, .read [1], .delete [1],
    .send 5 (some ⟨0, "again", "", 0, 200, 0, []⟩) 2 101]

theorem sentAndRead_retained :
    ∃ s : Mailroom, s.player.mails = [⟨2, "again", "", 101, 200, 0, []⟩]
      ∧ (∃ items after, s.player.claim [2] 150 = (.ok items, after))
      ∧ ∃ status, s.player.claim [2] 200 = (.error status, s.player) := by
  have run : ∃ s, System.follow Rising (fun s op => some (s.step (.merge Mail Mail.mailId) op)) (loaded [])
      sentAndRead = some s ∧ s.player.mails = [⟨2, "again", "", 101, 200, 0, []⟩] := by
    decide +kernel
  obtain ⟨s, followed, mails⟩ := run
  have empty : Retained [] := ⟨by simp, .nil, Nat.zero_le _⟩
  have reached : (retention (.merge Mail Mail.mailId)).Reach Rising s :=
    System.reach_of_follow ⟨[], empty, rfl⟩ followed
  obtain ⟨_, _, _, shown, hidden⟩ := mailbox_retained _ reached
  have member : (⟨2, "again", "", 101, 200, 0, []⟩ : Mail) ∈ s.player.mails := by rw [mails]; simp
  refine ⟨s, mails, shown 150 _ ((mem_listMails _).mpr ⟨member, by decide⟩) (by decide), ?_⟩
  apply hidden 200 _ member
  · rw [mem_listMails]
    simp
  · simp

end Mailroom

end Xkk.Public
