import QuoteGateway.Cache.Redis
import QuoteGateway.Table

/-!
# A server for the cache

The behaviour that the cache relies on: a map from keys to texts, each of which may expire at a
moment counted in milliseconds.
-/

namespace QuoteGateway.Cache.Redis

/-- A text kept by the server. One without a deadline never expires. -/
structure Kept where
  value : String
  deadline : Option Nat
deriving DecidableEq

structure Server where
  entries : Table Kept

namespace Server

def empty : Server := ⟨.empty⟩

def Kept.isLive (kept : Kept) (now : Nat) : Bool :=
  match kept.deadline with
  | none => true
  | some deadline => now < deadline

def live? (server : Server) (now : Nat) (key : String) : Option Kept :=
  (server.entries.get? key).filter (Kept.isLive · now)

/-- The milliseconds that a text is still kept: -2 where there is none, -1 where it never
expires. -/
def remainingMillis (server : Server) (now : Nat) (key : String) : Int :=
  match server.live? now key with
  | none => -2
  | some ⟨_, none⟩ => -1
  | some ⟨_, some deadline⟩ => (deadline - now : Nat)

def answer (server : Server) (now : Nat) : Command → Reply × Server
  | .get key =>
    (match server.live? now key with
      | none => .nil
      | some kept => .bulk kept.value, server)
  | .setFor key millis value =>
    (.status "OK", ⟨server.entries.put key ⟨value, some (now + millis)⟩⟩)
  | .del key =>
    (.integer (if (server.live? now key).isSome then 1 else 0), ⟨server.entries.erase key⟩)
  | .exists key => (.integer (if (server.live? now key).isSome then 1 else 0), server)
  | .remaining key => (.integer (server.remainingMillis now key), server)
  | .ping => (.status "PONG", server)

def content (server : Server) (now : Nat) : List (String × Kept) :=
  server.entries.rows.filter fun row => Kept.isLive row.2 now

end Server

end QuoteGateway.Cache.Redis
