import Xpra.Client.Audio
import Xpra.Client.Paint

/-! The bitmap font of the hand-drawn dialogs (`client/font.rs`). -/

namespace Xpra.Client.Font
open Xpra.Net Paint
open Checked (Fault)

def GLYPH_W : Int32 := 8

/-- The glyphs of the printable characters, from the space on. A row is one byte, whose
lowest bit is the leftmost column. -/
def FONT : Vector (Vector UInt8 16) 95 := #v[
  #v[0x00, 0x00, 0x00, 0x00, 0x00, 0x00, 0x00, 0x00, 0x00, 0x00, 0x00, 0x00, 0x00, 0x00, 0x00, 0x00],
  #v[0x00, 0x00, 0x18, 0x18, 0x18, 0x18, 0x18, 0x18, 0x18, 0x00, 0x18, 0x18, 0x00, 0x00, 0x00, 0x00],
  #v[0x00, 0x66, 0x66, 0x66, 0x66, 0x00, 0x00, 0x00, 0x00, 0x00, 0x00, 0x00, 0x00, 0x00, 0x00, 0x00],
  #v[0x00, 0x00, 0x36, 0x36, 0x7F, 0x36, 0x36, 0x36, 0x36, 0x7F, 0x36, 0x36, 0x00, 0x00, 0x00, 0x00],
  #v[0x00, 0x08, 0x7E, 0x0B, 0x0B, 0x0B, 0x3E, 0x68, 0x68, 0x68, 0x68, 0x3F, 0x08, 0x00, 0x00, 0x00],
  #v[0x00, 0x00, 0x60, 0x66, 0x36, 0x30, 0x18, 0x18, 0x0C, 0x6C, 0x66, 0x06, 0x00, 0x00, 0x00, 0x00],
  #v[0x00, 0x00, 0x1C, 0x36, 0x36, 0x36, 0x1C, 0x0E, 0x5B, 0x33, 0x33, 0x5E, 0x00, 0x00, 0x00, 0x00],
  #v[0x00, 0x18, 0x18, 0x18, 0x18, 0x00, 0x00, 0x00, 0x00, 0x00, 0x00, 0x00, 0x00, 0x00, 0x00, 0x00],
  #v[0x00, 0x70, 0x18, 0x0C, 0x0C, 0x06, 0x06, 0x06, 0x06, 0x0C, 0x0C, 0x18, 0x70, 0x00, 0x00, 0x00],
  #v[0x00, 0x0E, 0x18, 0x30, 0x30, 0x60, 0x60, 0x60, 0x60, 0x30, 0x30, 0x18, 0x0E, 0x00, 0x00, 0x00],
  #v[0x00, 0x00, 0x00, 0x00, 0x66, 0x3C, 0x18, 0xFF, 0x18, 0x3C, 0x66, 0x00, 0x00, 0x00, 0x00, 0x00],
  #v[0x00, 0x00, 0x00, 0x00, 0x00, 0x18, 0x18, 0x7E, 0x18, 0x18, 0x00, 0x00, 0x00, 0x00, 0x00, 0x00],
  #v[0x00, 0x00, 0x00, 0x00, 0x00, 0x00, 0x00, 0x00, 0x00, 0x00, 0x18, 0x18, 0x0C, 0x00, 0x00, 0x00],
  #v[0x00, 0x00, 0x00, 0x00, 0x00, 0x00, 0x00, 0x7E, 0x00, 0x00, 0x00, 0x00, 0x00, 0x00, 0x00, 0x00],
  #v[0x00, 0x00, 0x00, 0x00, 0x00, 0x00, 0x00, 0x00, 0x00, 0x00, 0x18, 0x18, 0x00, 0x00, 0x00, 0x00],
  #v[0x00, 0x60, 0x60, 0x30, 0x30, 0x18, 0x18, 0x0C, 0x0C, 0x06, 0x06, 0x03, 0x03, 0x00, 0x00, 0x00],
  #v[0x00, 0x00, 0x3E, 0x63, 0x63, 0x73, 0x7B, 0x6F, 0x67, 0x63, 0x63, 0x3E, 0x00, 0x00, 0x00, 0x00],
  #v[0x00, 0x00, 0x18, 0x1C, 0x1E, 0x1A, 0x18, 0x18, 0x18, 0x18, 0x18, 0x7E, 0x00, 0x00, 0x00, 0x00],
  #v[0x00, 0x00, 0x3E, 0x63, 0x60, 0x60, 0x30, 0x18, 0x0C, 0x06, 0x63, 0x7F, 0x00, 0x00, 0x00, 0x00],
  #v[0x00, 0x00, 0x3E, 0x63, 0x60, 0x60, 0x3C, 0x60, 0x60, 0x60, 0x63, 0x3E, 0x00, 0x00, 0x00, 0x00],
  #v[0x00, 0x00, 0x03, 0x03, 0x33, 0x33, 0x33, 0x33, 0x7F, 0x30, 0x30, 0x30, 0x00, 0x00, 0x00, 0x00],
  #v[0x00, 0x00, 0x7F, 0x63, 0x03, 0x03, 0x3F, 0x60, 0x60, 0x60, 0x63, 0x3E, 0x00, 0x00, 0x00, 0x00],
  #v[0x00, 0x00, 0x3E, 0x63, 0x03, 0x03, 0x3F, 0x63, 0x63, 0x63, 0x63, 0x3E, 0x00, 0x00, 0x00, 0x00],
  #v[0x00, 0x00, 0x7F, 0x63, 0x60, 0x60, 0x30, 0x18, 0x0C, 0x0C, 0x0C, 0x0C, 0x00, 0x00, 0x00, 0x00],
  #v[0x00, 0x00, 0x3E, 0x63, 0x63, 0x63, 0x3E, 0x63, 0x63, 0x63, 0x63, 0x3E, 0x00, 0x00, 0x00, 0x00],
  #v[0x00, 0x00, 0x3E, 0x63, 0x63, 0x63, 0x63, 0x7E, 0x60, 0x60, 0x63, 0x3E, 0x00, 0x00, 0x00, 0x00],
  #v[0x00, 0x00, 0x00, 0x00, 0x00, 0x18, 0x18, 0x00, 0x00, 0x00, 0x18, 0x18, 0x00, 0x00, 0x00, 0x00],
  #v[0x00, 0x00, 0x00, 0x00, 0x00, 0x18, 0x18, 0x00, 0x00, 0x00, 0x18, 0x18, 0x0C, 0x00, 0x00, 0x00],
  #v[0x00, 0x00, 0x60, 0x30, 0x18, 0x0C, 0x06, 0x06, 0x0C, 0x18, 0x30, 0x60, 0x00, 0x00, 0x00, 0x00],
  #v[0x00, 0x00, 0x00, 0x00, 0x00, 0x7E, 0x00, 0x00, 0x7E, 0x00, 0x00, 0x00, 0x00, 0x00, 0x00, 0x00],
  #v[0x00, 0x00, 0x06, 0x0C, 0x18, 0x30, 0x60, 0x60, 0x30, 0x18, 0x0C, 0x06, 0x00, 0x00, 0x00, 0x00],
  #v[0x00, 0x00, 0x3E, 0x63, 0x60, 0x30, 0x18, 0x0C, 0x0C, 0x00, 0x0C, 0x0C, 0x00, 0x00, 0x00, 0x00],
  #v[0x00, 0x00, 0x00, 0x3E, 0x43, 0x5B, 0x5B, 0x5B, 0x5B, 0x7B, 0x03, 0x3E, 0x00, 0x00, 0x00, 0x00],
  #v[0x00, 0x00, 0x3E, 0x63, 0x63, 0x63, 0x7F, 0x63, 0x63, 0x63, 0x63, 0x63, 0x00, 0x00, 0x00, 0x00],
  #v[0x00, 0x00, 0x3F, 0x63, 0x63, 0x63, 0x3F, 0x63, 0x63, 0x63, 0x63, 0x3F, 0x00, 0x00, 0x00, 0x00],
  #v[0x00, 0x00, 0x7E, 0x03, 0x03, 0x03, 0x03, 0x03, 0x03, 0x03, 0x03, 0x7E, 0x00, 0x00, 0x00, 0x00],
  #v[0x00, 0x00, 0x3F, 0x63, 0x63, 0x63, 0x63, 0x63, 0x63, 0x63, 0x63, 0x3F, 0x00, 0x00, 0x00, 0x00],
  #v[0x00, 0x00, 0x7E, 0x03, 0x03, 0x03, 0x1F, 0x03, 0x03, 0x03, 0x03, 0x7E, 0x00, 0x00, 0x00, 0x00],
  #v[0x00, 0x00, 0x7E, 0x03, 0x03, 0x03, 0x1F, 0x03, 0x03, 0x03, 0x03, 0x03, 0x00, 0x00, 0x00, 0x00],
  #v[0x00, 0x00, 0x7E, 0x03, 0x03, 0x03, 0x7B, 0x63, 0x63, 0x63, 0x63, 0x7E, 0x00, 0x00, 0x00, 0x00],
  #v[0x00, 0x00, 0x63, 0x63, 0x63, 0x63, 0x7F, 0x63, 0x63, 0x63, 0x63, 0x63, 0x00, 0x00, 0x00, 0x00],
  #v[0x00, 0x00, 0x7E, 0x18, 0x18, 0x18, 0x18, 0x18, 0x18, 0x18, 0x18, 0x7E, 0x00, 0x00, 0x00, 0x00],
  #v[0x00, 0x00, 0x7E, 0x18, 0x18, 0x18, 0x18, 0x18, 0x18, 0x18, 0x18, 0x0F, 0x00, 0x00, 0x00, 0x00],
  #v[0x00, 0x00, 0x63, 0x63, 0x63, 0x33, 0x1F, 0x33, 0x63, 0x63, 0x63, 0x63, 0x00, 0x00, 0x00, 0x00],
  #v[0x00, 0x00, 0x03, 0x03, 0x03, 0x03, 0x03, 0x03, 0x03, 0x03, 0x03, 0x7E, 0x00, 0x00, 0x00, 0x00],
  #v[0x00, 0x00, 0x63, 0x77, 0x7F, 0x6B, 0x63, 0x63, 0x63, 0x63, 0x63, 0x63, 0x00, 0x00, 0x00, 0x00],
  #v[0x00, 0x00, 0x63, 0x63, 0x67, 0x67, 0x6B, 0x6B, 0x73, 0x73, 0x63, 0x63, 0x00, 0x00, 0x00, 0x00],
  #v[0x00, 0x00, 0x3E, 0x63, 0x63, 0x63, 0x63, 0x63, 0x63, 0x63, 0x63, 0x3E, 0x00, 0x00, 0x00, 0x00],
  #v[0x00, 0x00, 0x3F, 0x63, 0x63, 0x63, 0x3F, 0x03, 0x03, 0x03, 0x03, 0x03, 0x00, 0x00, 0x00, 0x00],
  #v[0x00, 0x00, 0x3E, 0x63, 0x63, 0x63, 0x63, 0x63, 0x63, 0x6B, 0x6B, 0x3E, 0x18, 0x30, 0x00, 0x00],
  #v[0x00, 0x00, 0x3F, 0x63, 0x63, 0x63, 0x3F, 0x63, 0x63, 0x63, 0x63, 0x63, 0x00, 0x00, 0x00, 0x00],
  #v[0x00, 0x00, 0x7E, 0x03, 0x03, 0x03, 0x3E, 0x60, 0x60, 0x60, 0x60, 0x3F, 0x00, 0x00, 0x00, 0x00],
  #v[0x00, 0x00, 0xFF, 0x18, 0x18, 0x18, 0x18, 0x18, 0x18, 0x18, 0x18, 0x18, 0x00, 0x00, 0x00, 0x00],
  #v[0x00, 0x00, 0x63, 0x63, 0x63, 0x63, 0x63, 0x63, 0x63, 0x63, 0x63, 0x7E, 0x00, 0x00, 0x00, 0x00],
  #v[0x00, 0x00, 0x63, 0x63, 0x63, 0x63, 0x63, 0x63, 0x63, 0x36, 0x1C, 0x08, 0x00, 0x00, 0x00, 0x00],
  #v[0x00, 0x00, 0x63, 0x63, 0x63, 0x63, 0x63, 0x63, 0x6B, 0x7F, 0x77, 0x63, 0x00, 0x00, 0x00, 0x00],
  #v[0x00, 0x00, 0x63, 0x63, 0x63, 0x36, 0x1C, 0x36, 0x63, 0x63, 0x63, 0x63, 0x00, 0x00, 0x00, 0x00],
  #v[0x00, 0x00, 0x63, 0x63, 0x63, 0x63, 0x7E, 0x60, 0x60, 0x60, 0x60, 0x3F, 0x00, 0x00, 0x00, 0x00],
  #v[0x00, 0x00, 0x7F, 0x60, 0x60, 0x30, 0x18, 0x0C, 0x06, 0x03, 0x03, 0x7F, 0x00, 0x00, 0x00, 0x00],
  #v[0x00, 0x7C, 0x0C, 0x0C, 0x0C, 0x0C, 0x0C, 0x0C, 0x0C, 0x0C, 0x0C, 0x0C, 0x7C, 0x00, 0x00, 0x00],
  #v[0x00, 0x03, 0x03, 0x06, 0x06, 0x0C, 0x0C, 0x18, 0x18, 0x30, 0x30, 0x60, 0x60, 0x00, 0x00, 0x00],
  #v[0x00, 0x3E, 0x30, 0x30, 0x30, 0x30, 0x30, 0x30, 0x30, 0x30, 0x30, 0x30, 0x3E, 0x00, 0x00, 0x00],
  #v[0x00, 0x08, 0x1C, 0x36, 0x63, 0x00, 0x00, 0x00, 0x00, 0x00, 0x00, 0x00, 0x00, 0x00, 0x00, 0x00],
  #v[0x00, 0x00, 0x00, 0x00, 0x00, 0x00, 0x00, 0x00, 0x00, 0x00, 0x00, 0x00, 0x00, 0x00, 0x7F, 0x00],
  #v[0x00, 0x0C, 0x18, 0x30, 0x00, 0x00, 0x00, 0x00, 0x00, 0x00, 0x00, 0x00, 0x00, 0x00, 0x00, 0x00],
  #v[0x00, 0x00, 0x00, 0x00, 0x00, 0x3E, 0x60, 0x7E, 0x63, 0x63, 0x63, 0x7E, 0x00, 0x00, 0x00, 0x00],
  #v[0x00, 0x00, 0x03, 0x03, 0x03, 0x3F, 0x63, 0x63, 0x63, 0x63, 0x63, 0x3F, 0x00, 0x00, 0x00, 0x00],
  #v[0x00, 0x00, 0x00, 0x00, 0x00, 0x7E, 0x03, 0x03, 0x03, 0x03, 0x03, 0x7E, 0x00, 0x00, 0x00, 0x00],
  #v[0x00, 0x00, 0x60, 0x60, 0x60, 0x7E, 0x63, 0x63, 0x63, 0x63, 0x63, 0x7E, 0x00, 0x00, 0x00, 0x00],
  #v[0x00, 0x00, 0x00, 0x00, 0x00, 0x7E, 0x63, 0x63, 0x7F, 0x03, 0x03, 0x7E, 0x00, 0x00, 0x00, 0x00],
  #v[0x00, 0x00, 0x78, 0x0C, 0x0C, 0x0C, 0x3E, 0x0C, 0x0C, 0x0C, 0x0C, 0x0C, 0x00, 0x00, 0x00, 0x00],
  #v[0x00, 0x00, 0x00, 0x00, 0x00, 0x7E, 0x63, 0x63, 0x63, 0x63, 0x63, 0x3E, 0x60, 0x60, 0x3F, 0x00],
  #v[0x00, 0x00, 0x03, 0x03, 0x03, 0x3F, 0x63, 0x63, 0x63, 0x63, 0x63, 0x63, 0x00, 0x00, 0x00, 0x00],
  #v[0x00, 0x00, 0x18, 0x18, 0x00, 0x1C, 0x18, 0x18, 0x18, 0x18, 0x18, 0x38, 0x00, 0x00, 0x00, 0x00],
  #v[0x00, 0x00, 0x18, 0x18, 0x00, 0x18, 0x18, 0x18, 0x18, 0x18, 0x18, 0x18, 0x18, 0x18, 0x0E, 0x00],
  #v[0x00, 0x00, 0x03, 0x03, 0x03, 0x33, 0x1B, 0x0F, 0x0F, 0x1B, 0x33, 0x63, 0x00, 0x00, 0x00, 0x00],
  #v[0x00, 0x00, 0x0C, 0x0C, 0x0C, 0x0C, 0x0C, 0x0C, 0x0C, 0x0C, 0x0C, 0x38, 0x00, 0x00, 0x00, 0x00],
  #v[0x00, 0x00, 0x00, 0x00, 0x00, 0x37, 0x6B, 0x6B, 0x6B, 0x6B, 0x63, 0x63, 0x00, 0x00, 0x00, 0x00],
  #v[0x00, 0x00, 0x00, 0x00, 0x00, 0x3F, 0x63, 0x63, 0x63, 0x63, 0x63, 0x63, 0x00, 0x00, 0x00, 0x00],
  #v[0x00, 0x00, 0x00, 0x00, 0x00, 0x3E, 0x63, 0x63, 0x63, 0x63, 0x63, 0x3E, 0x00, 0x00, 0x00, 0x00],
  #v[0x00, 0x00, 0x00, 0x00, 0x00, 0x3F, 0x63, 0x63, 0x63, 0x63, 0x63, 0x3F, 0x03, 0x03, 0x03, 0x00],
  #v[0x00, 0x00, 0x00, 0x00, 0x00, 0x7E, 0x63, 0x63, 0x63, 0x63, 0x63, 0x7E, 0x60, 0x60, 0x60, 0x00],
  #v[0x00, 0x00, 0x00, 0x00, 0x00, 0x7E, 0x63, 0x03, 0x03, 0x03, 0x03, 0x03, 0x00, 0x00, 0x00, 0x00],
  #v[0x00, 0x00, 0x00, 0x00, 0x00, 0x7E, 0x03, 0x03, 0x3E, 0x60, 0x60, 0x3F, 0x00, 0x00, 0x00, 0x00],
  #v[0x00, 0x00, 0x0C, 0x0C, 0x0C, 0x3E, 0x0C, 0x0C, 0x0C, 0x0C, 0x0C, 0x78, 0x00, 0x00, 0x00, 0x00],
  #v[0x00, 0x00, 0x00, 0x00, 0x00, 0x63, 0x63, 0x63, 0x63, 0x63, 0x63, 0x7E, 0x00, 0x00, 0x00, 0x00],
  #v[0x00, 0x00, 0x00, 0x00, 0x00, 0x63, 0x63, 0x63, 0x63, 0x36, 0x1C, 0x08, 0x00, 0x00, 0x00, 0x00],
  #v[0x00, 0x00, 0x00, 0x00, 0x00, 0x63, 0x63, 0x6B, 0x6B, 0x6B, 0x6B, 0x76, 0x00, 0x00, 0x00, 0x00],
  #v[0x00, 0x00, 0x00, 0x00, 0x00, 0x63, 0x36, 0x1C, 0x1C, 0x36, 0x63, 0x63, 0x00, 0x00, 0x00, 0x00],
  #v[0x00, 0x00, 0x00, 0x00, 0x00, 0x63, 0x63, 0x63, 0x63, 0x63, 0x63, 0x7E, 0x60, 0x60, 0x3F, 0x00],
  #v[0x00, 0x00, 0x00, 0x00, 0x00, 0x7F, 0x60, 0x30, 0x18, 0x0C, 0x06, 0x7F, 0x00, 0x00, 0x00, 0x00],
  #v[0x00, 0x70, 0x18, 0x18, 0x18, 0x18, 0x0E, 0x0E, 0x18, 0x18, 0x18, 0x18, 0x70, 0x00, 0x00, 0x00],
  #v[0x00, 0x18, 0x18, 0x18, 0x18, 0x18, 0x18, 0x18, 0x18, 0x18, 0x18, 0x18, 0x18, 0x00, 0x00, 0x00],
  #v[0x00, 0x0E, 0x18, 0x18, 0x18, 0x18, 0x70, 0x70, 0x18, 0x18, 0x18, 0x18, 0x0E, 0x00, 0x00, 0x00],
  #v[0x00, 0x00, 0x00, 0x00, 0x00, 0x00, 0x4C, 0x7E, 0x32, 0x00, 0x00, 0x00, 0x00, 0x00, 0x00, 0x00]]

theorem printable {ch : UInt8} (inside : 0x20 ≤ ch ∧ ch ≤ 0x7E) : (ch - 0x20).toNat < 95 := by
  have low : 0x20 ≤ ch.toNat := UInt8.le_iff_toNat_le.mp inside.1
  have high : ch.toNat ≤ 0x7E := UInt8.le_iff_toNat_le.mp inside.2
  rw [UInt8.toNat_sub_of_le _ _ inside.1]
  exact (Nat.sub_lt_iff_lt_add low).mpr (Nat.lt_succ_of_le high)

def glyph (ch : UInt8) : Vector UInt8 16 :=
  if inside : 0x20 ≤ ch ∧ ch ≤ 0x7E then FONT.get ⟨(ch - 0x20).toNat, printable inside⟩ else FONT.get 0

/-- One pixel of the square that a pixel of the font is scaled to. -/
def blitPixel (checks : Bool) (fbWidth : Nat) (fbHeight cx y scale : Int32) (color : UInt32) (row : Nat) (col dy : Int32)
    (fb : List UInt32) (dx : Int32) : Except Fault (List UInt32) := do
  let shift ← i32 checks (col.toInt * scale.toInt)
  let left ← i32 checks (cx.toInt + shift.toInt)
  let px ← i32 checks (left.toInt + dx.toInt)
  let drop ← i32 checks ((Int32.ofNat row).toInt * scale.toInt)
  let top ← i32 checks (y.toInt + drop.toInt)
  let py ← i32 checks (top.toInt + dy.toInt)
  put checks fbWidth fbHeight color fb px py

def blitBit (checks : Bool) (fbWidth : Nat) (fbHeight cx y scale : Int32) (color : UInt32) (bits : UInt8) (row : Nat)
    (fb : List UInt32) (col : Int32) : Except Fault (List UInt32) :=
  if bits &&& (1 <<< UInt8.ofNat (asUsize col)) = 0 then .ok fb
  else (range 0 scale).foldlM (fun fb dy =>
    (range 0 scale).foldlM (blitPixel checks fbWidth fbHeight cx y scale color row col dy) fb) fb

def blitGlyph (checks : Bool) (fbWidth : Nat) (fbHeight cx y scale : Int32) (color : UInt32) (glyph : Vector UInt8 16)
    (fb : List UInt32) : Except Fault (List UInt32) :=
  glyph.toList.zipIdx.foldlM (fun fb (bits, row) =>
    (range 0 GLYPH_W).foldlM (blitBit checks fbWidth fbHeight cx y scale color bits row) fb) fb

/-- The loop over the bytes of the text. -/
def blitBytes (checks : Bool) (fbWidth : Nat) (fbHeight y scale : Int32) (color : UInt32) :
    (fb : List UInt32) → (cx : Int32) → Bytes → Except Fault (List UInt32)
  | fb, _, [] => .ok fb
  | fb, cx, ch :: text => do
    let fb ← blitGlyph checks fbWidth fbHeight cx y scale color (glyph ch) fb
    let advance ← i32 checks (GLYPH_W.toInt * scale.toInt)
    let cx ← i32 checks (cx.toInt + advance.toInt)
    blitBytes checks fbWidth fbHeight y scale color fb cx text

def blitStr (checks : Bool) (fb : List UInt32) (fbWidth : Nat) (x y scale : Int32) (text : String) (color : UInt32) :
    Except Fault (List UInt32) :=
  blitBytes checks fbWidth (.ofNat (fb.length / max fbWidth 1)) y scale color fb x (textBytes text)

end Xpra.Client.Font
