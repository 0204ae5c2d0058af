/-
A word of 32 bits: the low bits are switches, and the bits from the eleventh on hold the program
point, which tells the call sites of one program apart when one of them has to be compiled again.

* `CallSiteFlags` — the word;
* `CallSiteFlags.set`, `CallSiteFlags.withProgramPoint` — setting a switch and the program point;
* `CallSiteFlags.text` — the written form, `strict|optimistic pp=42`.
-/

set_option autoImplicit false

namespace DynamicLinking

/-- The flags of a call site. -/
structure CallSiteFlags where
  /-- The switches and the program point in one word. -/
  bits : UInt32
  deriving DecidableEq, Repr

namespace CallSiteFlags

/-- The switch of strict operations: a write that changes nothing fails. -/
def strict : UInt32 := 1

/-- The switch of profiled sites, which count their hits and misses. -/
def profile : UInt32 := 2

/-- The switch of traced sites. -/
def trace : UInt32 := 4

/-- The switch of optimistic sites, whose result has to fit a narrow numeric type. -/
def optimistic : UInt32 := 8

/-- The flags with a switch set. -/
def set (f : CallSiteFlags) (switch : UInt32) : CallSiteFlags :=
  ⟨f.bits ||| switch⟩

/-- The flags with another program point, of which the low 21 bits are kept. -/
def withProgramPoint (f : CallSiteFlags) (point : UInt32) : CallSiteFlags :=
  ⟨(f.bits &&& (0x7FF : UInt32)) ||| (point <<< 11)⟩

/-- Is a switch set? -/
def has (f : CallSiteFlags) (switch : UInt32) : Bool :=
  f.bits &&& switch != 0

/-- Is the site strict? -/
def isStrict (f : CallSiteFlags) : Bool := f.has strict

/-- Is the site profiled? -/
def isProfiling (f : CallSiteFlags) : Bool := f.has profile

/-- Is the site traced? -/
def isTracing (f : CallSiteFlags) : Bool := f.has trace

/-- Is the site optimistic? -/
def isOptimistic (f : CallSiteFlags) : Bool := f.has optimistic

/-- The program point; zero if the site has none. -/
def programPoint (f : CallSiteFlags) : UInt32 :=
  f.bits >>> 11

/-- The names of the switches that are set, in the order of their bits. -/
def switchNames (f : CallSiteFlags) : List String :=
  (if f.isStrict then ["strict"] else []) ++ (if f.isProfiling then ["profile"] else []) ++
    (if f.isTracing then ["trace"] else []) ++ (if f.isOptimistic then ["optimistic"] else [])

/-- The written form of the flags. -/
def text (f : CallSiteFlags) : String :=
  let names := f.switchNames
  String.intercalate "|" (if names.isEmpty then ["none"] else names) ++ " pp=" ++
    toString f.programPoint.toNat

end CallSiteFlags

end DynamicLinking
