/-! # Status codes

* `Status`: the negative code with which a codec refuses a call, and its text.
-/

namespace FramePress
set_option autoImplicit false

structure Status where
  code : Int
  deriving DecidableEq, Repr

namespace Status

def failure : Status := ⟨-1⟩
def noSpace : Status := ⟨-6⟩
def unsupported : Status := ⟨-7⟩
def badCodecParameter : Status := ⟨-8⟩
def badParameter : Status := ⟨-12⟩
def noThreads : Status := ⟨-26⟩
def sourceTooLarge : Status := ⟨-35⟩

def meaning (s : Status) : String :=
  if s = failure then "generic failure"
  else if s = noSpace then "not enough space to write"
  else if s = unsupported then "codec not supported"
  else if s = badCodecParameter then "invalid codec parameter"
  else if s = badParameter then "invalid parameter"
  else if s = noThreads then "thread pool creation failed"
  else if s = sourceTooLarge then "source exceeds maximum buffer size"
  else "unknown status"

def message (s : Status) : String :=
  "codec status " ++ toString s.code ++ " (" ++ s.meaning ++ ")"

end Status
end FramePress
