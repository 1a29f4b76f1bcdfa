/-
A server that answers from a script: the first request with the first
reply, the second with the second, and those behind the end of the script
with one and the same reply.
-/
import Sdwan.Http.Dialogue

namespace Sdwan.Http

/-- What a script has for one request. -/
inductive Scripted where
  /-- A reply. The length it announces may differ from that of its body:
  a greater one makes the body end too early, a smaller one cuts it. -/
  | reply (status : Status) (headers : Headers) (length : Option Nat) (body : List UInt8)
  /-- The connection is closed without a reply. -/
  | drop
  /-- No reply ever comes. -/
  | hang
deriving DecidableEq, Repr

namespace Scripted

/-- The part of a body that arrives under an announced length. -/
def arriving (length : Option Nat) (body : List UInt8) : Option (List UInt8) :=
  match length with
  | none => some body
  | some n => if body.length < n then none else some (body.take n)

/-- What comes of a request. -/
def outcome (r : Request) : Scripted → Outcome
  | drop => .broken
  | hang => .timedOut
  | reply status headers length body =>
    .reply {
      status
      headers
      body := if r.method == .head || status.isBodiless then some [] else arriving length body }

/-- The reply behind the end of a script. -/
def rest : Scripted := .reply ⟨404⟩ [] none (Text.bytesOf "unscripted")

/-- A server that answers from a script. -/
def serve : Dialogue.Server (List Scripted) := fun r script =>
  match script with
  | [] => (rest.outcome r, [])
  | x :: xs => (x.outcome r, xs)

/-- A server that nothing connects to. -/
def absent : Dialogue.Server (List Scripted) := fun _ script => (.refused, script)

end Scripted

end Sdwan.Http
