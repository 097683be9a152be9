import GuiExplorer.Image.Png.Rows
import GuiExplorer.Image.Raster

/-!
# Pixels of a PNG image

Rows hold samples of one to sixteen bits.  Samples are brought to eight bits, entries
of the palette are replaced by their colours, and transparent colours get no
opacity.
-/

namespace GuiExplorer.Image.Png

/-- The sample with the given number in a row. -/
def sample (depth : Nat) (row : Array UInt8) (index : Nat) : Nat :=
  if depth = 16 then 256 * (row.getD (2 * index) 0).toNat + (row.getD (2 * index + 1) 0).toNat
  else if depth = 8 then (row.getD index 0).toNat
  else
    let position := index * depth
    (row.getD (position / 8) 0).toNat / Nat.pow 2 (8 - depth - position % 8) % Nat.pow 2 depth

/-- A sample in eight bits: narrow ones are scaled up, wide ones rounded. -/
def toByte (depth value : Nat) : UInt8 :=
  if depth = 16 then Pixel.narrow value
  else UInt8.ofNat (value * (255 / (Nat.pow 2 depth - 1)))

/-- Samples as they are sent, in whole bytes. -/
def sampleBytes (depth : Nat) (samples : List Nat) : List UInt8 :=
  samples.flatMap fun value =>
    if depth = 16 then [UInt8.ofNat (value / 256), UInt8.ofNat value] else [UInt8.ofNat value]

/-- Full opacity, unless the samples are exactly the transparent ones. -/
def opacity (transparent : Option (List UInt8)) (depth : Nat) (samples : List Nat) : UInt8 :=
  if transparent = some (sampleBytes depth samples) then 0 else 255

/-- An entry of the palette; black if there is none.  Opacities that outnumber the
entries do not count. -/
def paletteEntry (palette transparency : List UInt8) (index : Nat) : Pixel :=
  let transparency := if transparency.length ≤ palette.length / 3 then transparency else []
  match (palette.drop (3 * index)).take 3 with
  | [red, green, blue] => ⟨red, green, blue, transparency.getD index 255⟩
  | _ => ⟨0, 0, 0, 255⟩

/-- The pixel with the given number in a row. -/
def pixelOfRow (preamble : Preamble) (row : Array UInt8) (index : Nat) : Pixel :=
  let header := preamble.header
  let samples := (List.range header.kind.samples).map fun i =>
    sample header.depth row (index * header.kind.samples + i)
  let scaled := samples.map (toByte header.depth)
  match header.kind, samples, scaled with
  | .grey, _, [grey] =>
      ⟨grey, grey, grey, opacity preamble.transparency header.depth samples⟩
  | .colour, _, [red, green, blue] =>
      ⟨red, green, blue, opacity preamble.transparency header.depth samples⟩
  | .palette, [entry], _ =>
      paletteEntry (preamble.palette.getD []) (preamble.transparency.getD []) entry
  | .greyAlpha, _, [grey, alpha] => ⟨grey, grey, grey, alpha⟩
  | .colourAlpha, _, [red, green, blue, alpha] => ⟨red, green, blue, alpha⟩
  | _, _, _ => ⟨0, 0, 0, 255⟩

/-- The image put together from its passes. -/
def assemble (preamble : Preamble) (passes : List PassRows) : Raster :=
  let rows := passes.map fun (pass, rows) => (pass, (rows.map List.toArray).toArray)
  let pixel (column row : Nat) : Pixel :=
    match rows.find? fun (pass, _) =>
        pass.left ≤ column && (column - pass.left) % pass.across = 0 &&
          pass.top ≤ row && (row - pass.top) % pass.down = 0 with
    | some (pass, rows) =>
        pixelOfRow preamble (rows.getD ((row - pass.top) / pass.down) #[])
          ((column - pass.left) / pass.across)
    | none => ⟨0, 0, 0, 255⟩
  ⟨preamble.header.width, preamble.header.height, pixel⟩

end GuiExplorer.Image.Png
