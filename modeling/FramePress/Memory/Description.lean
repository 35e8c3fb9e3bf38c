import FramePress.Memory.Frame
import FramePress.Text.Quoted

/-! # Descriptions of frames

* `Frame.describe`: a frame without its payload, on one line.
-/

namespace FramePress
set_option autoImplicit false

namespace Frame

def describeOption (value : Option String) : String :=
  match value with
  | none => "None"
  | some text => "Some(" ++ text ++ ")"

/-- The fields in order, each with its text. -/
def describedFields (f : Frame) : List (String × String) :=
  [("dataset_name", quoted f.dataset),
    ("acquisition_id", quoted f.acquisition),
    ("frame_number", toString f.number),
    ("data_type", describeOption (f.dataType.map DataType.label)),
    ("dimensions", "[" ++ ", ".intercalate (f.dimensions.map toString) ++ "]"),
    ("data_size", toString f.dataSize),
    ("block_index", describeOption (f.block.map fun b => toString b.index))]

def describe (f : Frame) : String :=
  "Frame \x7b " ++ ", ".intercalate (f.describedFields.map fun (name, text) => name ++ ": " ++ text) ++
    " \x7d"

end Frame
end FramePress
