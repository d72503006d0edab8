import ChannelFeed.Json.Basic

/-!
# Channels

A channel record as the service gives it. Members that have no field of their own are kept, so that a
record can be written back unchanged.
-/

namespace ChannelFeed

structure Channel where
  userId : String
  name : String
  extra : Json.Members

namespace Channel

/-- The record as a value: its fields stand among the other members, in the order of the keys. -/
def toJson (c : Channel) : Json :=
  .object (Json.ofPairs (("userID", .string c.userId) :: ("name", .string c.name) :: c.extra))

/-- The record as it is written: the fields first, the other members behind them. -/
def document (c : Channel) : Json :=
  .object (("userID", .string c.userId) :: ("name", .string c.name) :: c.extra)

/-- Equality of records, doubles being compared as numbers. -/
def same (a b : Channel) : Bool :=
  a.userId == b.userId && a.name == b.name && Json.sameMembers a.extra b.extra

theorem same_self (c : Channel) : c.same c = true := by simp [same, Json.sameMembers_self]

def sameList : List Channel → List Channel → Bool
  | [], [] => true
  | a :: as, b :: bs => a.same b && sameList as bs
  | _, _ => false

theorem sameList_self (channels : List Channel) : sameList channels channels = true := by
  induction channels with
  | nil => rfl
  | cons c channels ih => rw [sameList, c.same_self, ih]; rfl

end Channel

def envelope (channels : List Channel) : Json :=
  .object [("channels", .array (channels.map Channel.document))]

end ChannelFeed
