import QuicProxy.Std.Bytes
import Mathlib.Data.List.Nodup

/-!
# Header blocks

`SpdyHeaderBlock` maps names to values and remembers the order in which names
were added. Assigning a name keeps its place; `AppendValueOrAddHeader` joins the
values of a repeated name with a NUL byte, those of `cookie` with `"; "`. The class
belongs to the QUIC library: the order, the joining and that a block which has been moved
from is empty are assumed of it.
-/

namespace QuicProxy

/-- `spdy::SpdyHeaderBlock` -/
structure SpdyHeaderBlock where
  entries : List (Bytes × Bytes)
  distinct : (entries.map Prod.fst).Nodup
deriving DecidableEq

namespace SpdyHeaderBlock

/-- No header. -/
def empty : SpdyHeaderBlock := ⟨[], List.nodup_nil⟩

/-- `find` -/
def find (block : SpdyHeaderBlock) (name : Bytes) : Option Bytes := block.entries.lookup name

/-- Change the value of a name in its place, or add the name at the end. -/
def upsert (block : SpdyHeaderBlock) (name : Bytes) (change : Bytes → Bytes)
    (fresh : Bytes) : SpdyHeaderBlock :=
  if present : name ∈ block.entries.map Prod.fst then
    { entries := block.entries.map fun entry =>
        if entry.1 = name then (entry.1, change entry.2) else entry
      distinct := by
        have names : (block.entries.map fun entry =>
            if entry.1 = name then (entry.1, change entry.2) else entry).map Prod.fst =
              block.entries.map Prod.fst := by
          rw [List.map_map]
          refine List.map_congr_left fun entry _ => ?_
          simp only [Function.comp_apply]
          split <;> rfl
        rw [names]
        exact block.distinct }
  else
    { entries := block.entries ++ [(name, fresh)]
      distinct := by
        rw [List.map_append]
        exact block.distinct.append (by simp) (by simpa using present) }

/-- `block[name] = value` -/
def set (block : SpdyHeaderBlock) (name value : Bytes) : SpdyHeaderBlock :=
  block.upsert name (fun _ => value) value

/-- `SeparatorForKey` -/
def separatorForKey (name : Bytes) : Bytes :=
  if name = ascii "cookie" then ascii "; " else [nul]

/-- `AppendValueOrAddHeader` -/
def appendValueOrAddHeader (block : SpdyHeaderBlock) (name value : Bytes) : SpdyHeaderBlock :=
  block.upsert name (fun old => old ++ separatorForKey name ++ value) value

end SpdyHeaderBlock

end QuicProxy
