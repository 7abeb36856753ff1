import TunnelControl.Connection.Error

/-!
# Values on a stream

* `writeValue written v`  writes a value behind all that was written before;
* `readValues α source`   the values of a stream, up to its end or the first error;
* `splitValues read bs`   the values that some bytes begin with, and the bytes behind them.
-/

namespace TunnelControl

/-- writes a value on a stream behind all that was written before: its frame, or not a byte -/
def writeValue {α : Type} [Wire α] (written : Bytes) (v : α) : Except PeerError Unit × Bytes :=
  match frameOf v with
  | .ok frame => (.ok (), written ++ frame)
  | .error e => (.error e, written)

/-- the values of a stream, up to its end or the first error -/
def readValues (α : Type) [Wire α] (source : Source) : List α × Option PeerError :=
  go source.content.length source
where
  /-- a frame takes four bytes at least, so that the number of bytes is fuel enough -/
  go : Nat → Source → List α × Option PeerError
    | fuel, source =>
      let (result, source) := nextFrame source
      match result.read α, fuel with
      | .ok none, _ => ([], none)
      | .error e, _ => ([], some e)
      | .ok (some v), 0 => ([v], none)
      | .ok (some v), fuel + 1 =>
        let (vs, e) := go fuel source
        (v :: vs, e)

/-- the values that some bytes begin with, and what follows the last of them -/
def splitValues {α : Type} (read : Bytes → Except Fault α) (bs : Bytes) : List α × Bytes :=
  go bs.length (.ofBytes bs)
where
  /-- a frame takes four bytes at least, so that the number of bytes is fuel enough -/
  go : Nat → Source → List α × Bytes
    | 0, source => ([], source.content)
    | fuel + 1, source =>
      match nextFrame source with
      | (.payload payload, rest) =>
        match read payload with
        | .ok v =>
          let (vs, left) := go fuel rest
          (v :: vs, left)
        | .error _ => ([], source.content)
      | _ => ([], source.content)

end TunnelControl
