import ScreenNavigation.Navigation.Codec

/-!
Two screens and the values they carry. A detail screen has seven values, of which tag and page have
defaults of their own; a counter screen has one.
-/
namespace ScreenNavigation.Navigation

open Extras (Shape Integer Owner)

structure DetailValues where
  id : Integer .i32
  tag : Option String
  page : Integer .u32
  score : Decimal.Extended .double
  labels : Option (List String)
  owner : Option Owner
  count : Integer .i32
  deriving DecidableEq, Repr

namespace DetailValues

private def zeroScore : Decimal.Extended .double := .finite Decimal.Double.zero

/-- What a new screen holds. -/
def initial : DetailValues :=
  ⟨.zero .i32, none, .zero .u32, zeroScore, none, none, .zero .i32⟩

def defaultTag : String := "none"

def defaultPage : Integer .u32 := ⟨1, by decide, by decide⟩

/-- Values for a builder: tag and page have their defaults. -/
def required (id : Integer .i32) (score : Decimal.Extended .double) (labels : Option (List String))
    (owner : Option Owner) (count : Integer .i32) : DetailValues :=
  ⟨id, some defaultTag, defaultPage, score, labels, owner, count⟩

/-- Writes the values in their order. -/
def write (v : DetailValues) : Writing Unit := do
  Writing.value (.integer .i32) "id" v.id
  Writing.optional .text "tag" v.tag
  Writing.value (.integer .u32) "page" v.page
  Writing.value .double "score" v.score
  Writing.optional (.list .text) "labels" v.labels
  Writing.optional .owner "owner" v.owner
  Writing.value (.integer .i32) "count" v.count

/-- Reads every value; one that is missing or has another shape takes its default. -/
def read (e : Extras) : DetailValues where
  id := e.getOr (.integer .i32) "id" (.zero .i32)
  tag := e.get? .text "tag" <|> some defaultTag
  page := e.getOr (.integer .u32) "page" defaultPage
  score := e.getOr .double "score" zeroScore
  labels := e.get? (.list .text) "labels"
  owner := e.get? .owner "owner"
  count := e.getOr (.integer .i32) "count" (.zero .i32)

def codec : Codec DetailValues := ⟨.detail, write, read⟩

end DetailValues

structure CounterValues where
  step : Option (Integer .i64)
  deriving DecidableEq, Repr

namespace CounterValues

def initial : CounterValues := ⟨none⟩

def defaultStep : Integer .i64 := ⟨10, by decide, by decide⟩

/-- Values for a builder. -/
def required : CounterValues := ⟨some defaultStep⟩

def write (v : CounterValues) : Writing Unit := Writing.optional (.integer .i64) "step" v.step

def read (e : Extras) : CounterValues :=
  ⟨e.get? (.integer .i64) "step" <|> some defaultStep⟩

def codec : Codec CounterValues := ⟨.counter, write, read⟩

end CounterValues

/-- A received request. -/
structure Started where
  payload : Payload
  /-- Only a request for a result has a code. -/
  requestCode : Option Int
  options : Option Extras

/-- A new payload for a running screen: it is remembered in any case, or only when `update` is set. -/
inductive Delivery where
  | replace (payload : Option Payload)
  | conditional (payload : Option Payload) (update : Bool)

namespace Delivery

def payload : Delivery → Option Payload
  | replace p => p
  | conditional p _ => p

def updates : Delivery → Bool
  | replace _ => true
  | conditional _ update => update

end Delivery

/-- A running screen with its values, the payload it remembers, and the requests it has received. -/
structure Screen (V : Type) where
  values : V
  payload : Option Payload
  journal : List Started

namespace Screen

variable {V : Type}

def setPayload (s : Screen V) (p : Option Payload) : Screen V := { s with payload := p }

/-- Takes the values found in extras; without extras nothing changes. -/
def inject (c : Codec V) (s : Screen V) (state : Option Extras) : Screen V :=
  match state with
  | some e => { s with values := c.read e }
  | none => s

/-- Remembers the payload when `update` is set, and takes the values of a payload that is present. -/
def processPayload (c : Codec V) (s : Screen V) (p : Option Payload) (update : Bool) : Screen V :=
  (if update then s.setPayload p else s).inject c (p.map (·.extras))

/-- Processes a delivered payload. -/
def deliver (c : Codec V) (s : Screen V) : Delivery → Screen V
  | .replace p => s.processPayload c p true
  | .conditional p update => s.processPayload c p update

/-- Writes the current values into extras. -/
def saveState (c : Codec V) (s : Screen V) : Writing Unit := c.write s.values

end Screen

abbrev Detail := Screen DetailValues

abbrev Counter := Screen CounterValues

def Detail.initial : Detail := ⟨.initial, none, []⟩

def Counter.initial : Counter := ⟨.initial, none, []⟩

/-- A screen of either kind. -/
inductive Instance where
  | detail (s : Detail)
  | counter (s : Counter)

namespace Instance

/-- The detail builder's decoding: it touches detail screens only. -/
def injectDetail (i : Instance) (state : Option Extras) : Instance :=
  match i with
  | detail s => detail (s.inject DetailValues.codec state)
  | counter s => counter s

/-- The counter builder's decoding: it touches counter screens only. -/
def injectCounter (i : Instance) (state : Option Extras) : Instance :=
  match i with
  | detail s => detail s
  | counter s => counter (s.inject CounterValues.codec state)

/-- The detail builder's saving: it saves detail screens only. -/
def saveDetail : Instance → Writing Unit
  | detail s => s.saveState DetailValues.codec
  | counter _ => pure ()

/-- The counter builder's saving: it saves counter screens only. -/
def saveCounter : Instance → Writing Unit
  | detail _ => pure ()
  | counter s => s.saveState CounterValues.codec

end Instance

end ScreenNavigation.Navigation
