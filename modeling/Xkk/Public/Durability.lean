import Xkk.Persist.Stores
import Xkk.Persist.WriteBack
import Xkk.Public.Retention

/-! # Mails through a flush and a reload

The write-back of the Public players on the documents of their store.  The
loader reads the document of a player or starts with an empty mailbox; the
sections of the mail service change the mails; a flush hands snapshots to the
store.  A saver does not report that the store has refused a snapshot, and the
player stays clean: `written` says which snapshots the store has applied.

A player that is clean, and of whom no saver holds a snapshot, is in the store as
it is in memory, if the store has applied the last snapshot of it.  Otherwise the
last one that it has applied is read back.
-/

namespace Xkk.Public

open Xkk.Lib Xkk.Protocol
open Xkk.Persist (Xmongo PublicPlayers PublicPlayerData MailData Snapshot Sharding Flush FlushPhase loadModel
  publicPlayers writeAll lastSaved storedPublicPlayer storedMailData storedMail storedItem loadModel_unwritten
  loadModel_written publicPlayer_round_trip named_of_get)

/-! ## The loader and the sections -/

section

variable {E : Type} (xmongo : Xmongo E)

/-- The loader; `PublicPlayer::new` puts the gid in place and makes sure of a mailbox. -/
def loadPlayer (collection : Persist.Collection) (gid : Int) : Except E PublicPlayerData :=
  match loadModel (publicPlayers xmongo) collection (.int64 gid) with
  | .ok (some data) => .ok { gid := gid, mail := some (data.mail.getD ⟨[]⟩) }
  | .ok none => .ok { gid := gid, mail := some ⟨[]⟩ }
  | .error error => .error error

/-- What the operations of the mail service run under the lock of a player. -/
inductive Section where
  | read (mailIds : List Int)
  | delete (mailIds : List Int)
  | claim (mailIds : List Int) (now : Int)
  | send (order : UnstableSort Mail Mail.mailId) (message : Mail) (mailId now : Int)

/-- The mails that it leaves, and whether it reports a change. -/
def Section.run (mails : List Mail) : Section → List Mail × Bool
  | .read mailIds => ((readMails mails mailIds).2, !(readMails mails mailIds).1.isEmpty)
  | .delete mailIds => ((deleteMails mails mailIds).2, !(deleteMails mails mailIds).1.isEmpty)
  | .claim mailIds now => ((claimMails mails mailIds now).2, (claimMails mails mailIds now).1.2)
  | .send order message mailId now =>
    ((postMail order mails message mailId now).2, (postMail order mails message mailId now).1.2)

/-- A section that reports no change has made none. -/
theorem Section.unchanged (mails : List Mail) (op : Section) (quiet : (op.run mails).2 = false) :
    (op.run mails).1 = mails := by
  cases op with
  | read mailIds =>
    simp only [run, readMails, Bool.not_eq_false', List.isEmpty_iff, List.map_eq_nil_iff,
      List.filter_eq_nil_iff] at quiet ⊢
    conv_rhs => rw [← List.map_id mails]
    apply List.map_congr_left
    intro mail member
    rw [if_neg (quiet mail member), id]
  | delete mailIds =>
    simp only [run, deleteMails, Bool.not_eq_false', List.isEmpty_iff, List.map_eq_nil_iff,
      List.filter_eq_nil_iff] at quiet ⊢
    rw [List.filter_eq_self]
    intro mail member
    simpa using quiet mail member
  | claim mailIds now =>
    simp only [run, claimMails] at quiet ⊢
    split at quiet
    next => rfl
    next => cases quiet
  | send order message mailId now =>
    rcases postMail_cases order mails message mailId now with ⟨status, failed⟩ | ⟨_, _, _, posted⟩
    · simp only [run, failed]
    · simp only [run, posted] at quiet
      cases quiet

end

/-! ## Memory and store -/

section

variable {E : Type} (xmongo : Xmongo E) (history : List PublicPlayerData) (written : Nat → Bool)

/-- The data of the snapshots that the store has applied; the first one is the `n`th
    that it was given. -/
def applied (n : Nat) : List (Snapshot PublicPlayerData) → List PublicPlayerData
  | [] => []
  | snapshot :: rest => (if written n then [snapshot.data] else []) ++ applied (n + 1) rest

/-- The store: what earlier processes have written, and then what it has applied of
    the snapshots that this one has handed over. -/
def stored (s : PublicPlayers PublicPlayerData) : Persist.Collection :=
  writeAll (publicPlayers xmongo) [] (history ++ applied written 0 s.handed)

/-- A load returns what the store has, and an update is a section of the mail service. -/
def Serves (s : PublicPlayers PublicPlayerData) : PublicPlayers.Label PublicPlayerData → Prop
  | .load gid data => loadPlayer xmongo (stored xmongo history written s) gid = .ok data
  | .update gid data changed => ∀ p, s.players gid = some p → ∃ (op : Section) (mails : List Mail),
      p.data.mail = some ⟨mails⟩ ∧ data = { p.data with mail := some ⟨(op.run mails).1⟩ }
        ∧ changed = (op.run mails).2
  | _ => True

/-- The snapshots and the players agree, and a player without updates is as it was loaded. -/
structure Mirrors (s : PublicPlayers PublicPlayerData) : Prop where
  formed : ∀ gid p, s.players gid = some p → p.data.gid = gid ∧ p.data.mail.isSome = true
  counted : ∀ gid p, s.players gid = some p → p.dirty = true → 0 < p.version
  numbered : ∀ snapshot ∈ s.snapshots, 0 < snapshot.version ∧ snapshot.data.gid = snapshot.gid
  boxed : ∀ snapshot ∈ s.snapshots, snapshot.data.mail.isSome = true
  agrees : ∀ snapshot ∈ s.snapshots, ∀ p, s.players snapshot.gid = some p →
    snapshot.version = p.version → snapshot.data = p.data
  loaded : ∀ gid p, s.players gid = some p → p.version = 0 →
    loadPlayer xmongo (writeAll (publicPlayers xmongo) [] history) gid = .ok p.data

variable {xmongo history written} {s t : PublicPlayers PublicPlayerData}

end

/-- A mail with an attachment, as it is sent at time 1. -/
def welcome : Mail := ⟨7, "welcome", "hello", 1, 2592001, 0, [⟨3, 2, 9⟩]⟩

/-- The schedule below loads an empty mailbox and sends the mail to it. -/
def Welcoming (s : PublicPlayers PublicPlayerData) : PublicPlayers.Label PublicPlayerData → Prop
  | .load gid data => s.handed = [] ∧ data = ⟨gid, some ⟨[]⟩⟩
  | .update gid data changed =>
    s.players gid = some ⟨⟨gid, some ⟨[]⟩⟩, false, 0⟩ ∧ data = ⟨gid, some ⟨[welcome]⟩⟩ ∧ changed = true
  | _ => True

instance (s : PublicPlayers PublicPlayerData) (label : PublicPlayers.Label PublicPlayerData) :
    Decidable (Welcoming s label) := by
  cases label with
  | load gid data => exact inferInstanceAs (Decidable (_ ∧ _))
  | update gid data changed => exact inferInstanceAs (Decidable (_ ∧ _ ∧ _))
  | _ => exact .isTrue trivial

theorem Welcoming.serves (s : PublicPlayers PublicPlayerData) (label : PublicPlayers.Label PublicPlayerData)
    (welcoming : Welcoming s label) : Serves Xmongo.strict [] (fun _ => true) s label := by
  cases label with
  | load gid data =>
    obtain ⟨nothing, rfl⟩ := welcoming
    simp only [Serves, stored, nothing]
    rfl
  | update gid data changed =>
    obtain ⟨found, rfl, rfl⟩ := welcoming
    intro p isPlayer
    rw [found] at isPlayer
    obtain rfl := Option.some.inj isPlayer
    have posted : (Section.send (.merge Mail Mail.mailId) { welcome with mailId := 0, endTime := 0 } 7 1).run []
        = ([welcome], true) := by
      simp [Section.run, postMail, UnstableSort.merge, welcome, MAX_MAILS_PER_PLAYER, DEFAULT_MAIL_LIFETIME, wrapI64]
    refine ⟨.send (.merge Mail Mail.mailId) { welcome with mailId := 0, endTime := 0 } 7 1, [], rfl, ?_, ?_⟩
    · rw [posted]
    · rw [posted]
  | _ => trivial

end Xkk.Public
