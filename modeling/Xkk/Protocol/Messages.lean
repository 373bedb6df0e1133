import Mathlib.Algebra.Group.Int.Defs
import Mathlib.Algebra.Group.Nat.Defs
import Mathlib.Data.List.Basic

/-! # Messages that the services share

The parts of the protocol that items and mails are made of.  Integers of the
protocol are signed; `wrapI64` is what 64-bit addition leaves in a release
build.
-/

namespace Xkk.Protocol

structure Status where
  code : Int
  message : String
deriving DecidableEq, Repr

namespace Code

def OK : Int := 0
def INVALID_ARGUMENT : Int := 1
def UNAUTHENTICATED : Int := 2
def RATE_LIMITED : Int := 3
def TEMPORARILY_UNAVAILABLE : Int := 4
def NOT_FOUND : Int := 7
def CONFLICT : Int := 8
def INSUFFICIENT_ITEMS : Int := 9
def INTERNAL : Int := 10
def OVERLOADED : Int := 11

end Code

def okStatus : Status := ⟨Code.OK, ""⟩

def errorStatus (code : Int) (message : String) : Status := ⟨code, message⟩

def wrapI64 (n : Int) : Int := Int.bmod n (2 ^ 64)

structure Item where
  itemId : Int
  count : Int
  change : Int
deriving DecidableEq, Repr

structure Mail where
  mailId : Int
  title : String
  content : String
  sendTime : Int
  endTime : Int
  state : Int
  attachments : List Item
deriving DecidableEq, Repr

/-- The route of a request, as the caller put it into the head of the message. -/
structure RpcHead where
  gid : UInt64
  playerSession : UInt64
deriving DecidableEq, Repr

end Xkk.Protocol
