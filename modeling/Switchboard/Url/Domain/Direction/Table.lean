import Switchboard.Text.CodeRange

/-!
# Tables of directions

The data behind `Domain.direction`, for the characters that may stand in a domain name. Listed in
increasing order of code point; all other characters are written from left to right.
-/

namespace Switchboard.Url.Domain

/-- Letters that are written from right to left. -/
def rightRanges : List Text.CodeRange := [
  ⟨0x05BE, 0x05BE⟩, ⟨0x05C0, 0x05C0⟩, ⟨0x05C3, 0x05C3⟩, ⟨0x05C6, 0x05C6⟩, ⟨0x05D0, 0x05F4⟩,
  ⟨0x0608, 0x0608⟩, ⟨0x060B, 0x060B⟩, ⟨0x060D, 0x060D⟩, ⟨0x061B, 0x064A⟩, ⟨0x066D, 0x066F⟩,
  ⟨0x0671, 0x06D5⟩, ⟨0x06E5, 0x06E6⟩, ⟨0x06EE, 0x06EF⟩, ⟨0x06FA, 0x0710⟩, ⟨0x0712, 0x072F⟩,
  ⟨0x074D, 0x07A5⟩, ⟨0x07B1, 0x07EA⟩, ⟨0x07F4, 0x07F5⟩, ⟨0x07FA, 0x07FA⟩, ⟨0x07FE, 0x0815⟩,
  ⟨0x081A, 0x081A⟩, ⟨0x0824, 0x0824⟩, ⟨0x0828, 0x0828⟩, ⟨0x0830, 0x0858⟩, ⟨0x085E, 0x088F⟩,
  ⟨0x08A0, 0x08C9⟩, ⟨0xFBB2, 0xFBC2⟩, ⟨0xFE73, 0xFE73⟩, ⟨0x10800, 0x1091B⟩, ⟨0x10920, 0x10A00⟩,
  ⟨0x10A10, 0x10A35⟩, ⟨0x10A40, 0x10AE4⟩, ⟨0x10AEB, 0x10B35⟩, ⟨0x10B40, 0x10D23⟩,
  ⟨0x10D4A, 0x10D4F⟩, ⟨0x10D6F, 0x10D8F⟩, ⟨0x10E80, 0x10EA9⟩, ⟨0x10EAD, 0x10EC7⟩,
  ⟨0x10F00, 0x10F45⟩, ⟨0x10F51, 0x10F81⟩, ⟨0x10F86, 0x10FF6⟩, ⟨0x1E800, 0x1E8CF⟩,
  ⟨0x1E922, 0x1E943⟩, ⟨0x1E94B, 0x1ED3D⟩]

/-- Digits that keep company with letters written from right to left. -/
def arabicDigitRanges : List Text.CodeRange := [
  ⟨0x0660, 0x0669⟩, ⟨0x066B, 0x066C⟩, ⟨0x10D30, 0x10D49⟩, ⟨0x10E60, 0x10E7E⟩]

/-- Digits that keep company with all letters. -/
def commonDigitRanges : List Text.CodeRange := [
  ⟨0x0030, 0x0039⟩, ⟨0x06F0, 0x06F9⟩, ⟨0x102E1, 0x102FB⟩]

/-- Characters without a direction. -/
def neutralRanges : List Text.CodeRange := [
  ⟨0x0000, 0x002F⟩, ⟨0x003A, 0x0060⟩, ⟨0x007B, 0x00D7⟩, ⟨0x00F7, 0x00F7⟩, ⟨0x02B9, 0x02BA⟩,
  ⟨0x02C2, 0x02CF⟩, ⟨0x02D2, 0x02ED⟩, ⟨0x02EF, 0x02FF⟩, ⟨0x0375, 0x0375⟩, ⟨0x03F6, 0x03F6⟩,
  ⟨0x058A, 0x058F⟩, ⟨0x0606, 0x0607⟩, ⟨0x0609, 0x060A⟩, ⟨0x060C, 0x060C⟩, ⟨0x060E, 0x060F⟩,
  ⟨0x066A, 0x066A⟩, ⟨0x06DE, 0x06DE⟩, ⟨0x06E9, 0x06E9⟩, ⟨0x07F6, 0x07F9⟩, ⟨0x09F2, 0x09F3⟩,
  ⟨0x09FB, 0x09FB⟩, ⟨0x0AF1, 0x0AF1⟩, ⟨0x0BF3, 0x0BFA⟩, ⟨0x0C78, 0x0C7E⟩, ⟨0x0E3F, 0x0E3F⟩,
  ⟨0x0F3A, 0x0F3D⟩, ⟨0x1390, 0x1399⟩, ⟨0x1400, 0x1400⟩, ⟨0x169B, 0x169C⟩, ⟨0x17DB, 0x17DB⟩,
  ⟨0x17F0, 0x180A⟩, ⟨0x1940, 0x1945⟩, ⟨0x19DE, 0x19FF⟩, ⟨0x200C, 0x20C1⟩, ⟨0x2104, 0x214D⟩,
  ⟨0x218A, 0x2335⟩, ⟨0x237B, 0x2394⟩, ⟨0x2396, 0x26AB⟩, ⟨0x26AD, 0x27FF⟩, ⟨0x2900, 0x2BFF⟩,
  ⟨0x2CE5, 0x2CEA⟩, ⟨0x2CF9, 0x2CFF⟩, ⟨0x2E00, 0x3004⟩, ⟨0x3008, 0x3020⟩, ⟨0x3030, 0x3030⟩,
  ⟨0x3037, 0x3037⟩, ⟨0x303D, 0x303F⟩, ⟨0x30A0, 0x30A0⟩, ⟨0x30FB, 0x30FB⟩, ⟨0x31C0, 0x31E5⟩,
  ⟨0x4DC0, 0x4DFF⟩, ⟨0xA490, 0xA4C6⟩, ⟨0xA60D, 0xA60F⟩, ⟨0xA673, 0xA673⟩, ⟨0xA67E, 0xA67F⟩,
  ⟨0xA700, 0xA721⟩, ⟨0xA788, 0xA788⟩, ⟨0xA828, 0xA82B⟩, ⟨0xA838, 0xA839⟩, ⟨0xA874, 0xA877⟩,
  ⟨0xAB6A, 0xAB6B⟩, ⟨0xFBC3, 0xFDFF⟩, ⟨0xFE45, 0xFE46⟩, ⟨0x10101, 0x10101⟩, ⟨0x10140, 0x1018C⟩,
  ⟨0x10190, 0x101A0⟩, ⟨0x1091F, 0x1091F⟩, ⟨0x10B39, 0x10B3F⟩, ⟨0x10D6E, 0x10D6E⟩,
  ⟨0x10ED0, 0x10ED8⟩, ⟨0x11052, 0x11065⟩, ⟨0x11660, 0x1166C⟩, ⟨0x11FD5, 0x11FF1⟩,
  ⟨0x16FE2, 0x16FE2⟩, ⟨0x1CC00, 0x1CEF0⟩, ⟨0x1D1E9, 0x1D241⟩, ⟨0x1D245, 0x1D245⟩,
  ⟨0x1D300, 0x1D356⟩, ⟨0x1E2FF, 0x1E2FF⟩, ⟨0x1EEF0, 0x1F12F⟩, ⟨0x1F16D, 0x1F16F⟩,
  ⟨0x1F1AD, 0x1F1AD⟩, ⟨0x1F260, 0x1FBFA⟩]

end Switchboard.Url.Domain
