import RemoteScreen.Image.Bmp
import RemoteScreen.Image.Gif
import RemoteScreen.Image.Jpeg
import RemoteScreen.Image.Netpbm
import RemoteScreen.Image.Png

/-! Pictures: octets in one of the image formats. How they begin tells the format. -/
namespace RemoteScreen
namespace Image

structure Format where
  accepts : Octets → Bool
  read : Octets → Read Size

def formats : List Format := [
  ⟨Bmp.accepts, Bmp.read⟩, ⟨Gif.accepts, Gif.read⟩, ⟨Jpeg.accepts, Jpeg.read⟩,
  ⟨Netpbm.accepts, Netpbm.read⟩, ⟨Png.accepts, Png.read⟩]

/-- The size of the picture in octets. -/
def Size.ofOctets (octets : Octets) : Read Size :=
  match formats.find? fun f => f.accepts octets with
  | some f => f.read octets
  | none => .error .unidentified

end Image
end RemoteScreen
