import GuiExplorer.Image.Raster

/-!
# Screen captures

A screen capture is an image file.  It is decoded by a decoder from elsewhere, of
which nothing is known but what its calls may come to.
-/

namespace GuiExplorer

/-- What decoding a screen capture comes to. -/
inductive Capture where
  | image (image : Raster)
  /-- The file is no image that the decoder can decode. -/
  | unreadable
  /-- The decoder broke down instead of returning. -/
  | broken

/-- A decoder of screen captures. -/
abbrev Decoder := ByteArray → Capture

end GuiExplorer
