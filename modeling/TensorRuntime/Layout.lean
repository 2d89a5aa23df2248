/-! Layout tags: what the axes of a tensor mean. -/

namespace TensorRuntime

/-- `any` carries no meaning; the letters of the others name the axes from the outermost inwards. -/
inductive Layout where
  | any | w | nc | nchw | nhwc | oihw | ncdhw | ndhwc
  deriving DecidableEq, Repr, Inhabited

namespace Layout

def all : List Layout := [any, w, nc, nchw, nhwc, oihw, ncdhw, ndhwc]

def name : Layout → String
  | any => "any"
  | w => "w"
  | nc => "nc"
  | nchw => "nchw"
  | nhwc => "nhwc"
  | oihw => "oihw"
  | ncdhw => "ncdhw"
  | ndhwc => "ndhwc"

def title : Layout → String
  | any => "Any"
  | w => "W"
  | nc => "Nc"
  | nchw => "Nchw"
  | nhwc => "Nhwc"
  | oihw => "Oihw"
  | ncdhw => "Ncdhw"
  | ndhwc => "Ndhwc"

def ofName? (text : String) : Option Layout :=
  all.find? (·.name == text)

def rank? : Layout → Option Nat
  | any => none
  | w => some 1
  | nc => some 2
  | nchw | nhwc | oihw => some 4
  | ncdhw | ndhwc => some 5

def channelAxis? : Layout → Option Nat
  | any => none
  | w | oihw => some 0
  | nc | nchw | ncdhw => some 1
  | nhwc => some 3
  | ndhwc => some 4

def spatialAxes? : Layout → Option (Nat × Nat)
  | nchw | oihw => some (2, 3)
  | nhwc => some (1, 2)
  | _ => none

def isChannelLast : Layout → Bool
  | nhwc | ndhwc => true
  | _ => false

def acceptsRank (layout : Layout) (rank : Nat) : Bool :=
  match layout.rank? with
  | none => true
  | some own => own == rank

end Layout

end TensorRuntime
