import RemoteScreen.Host.Letter
import RemoteScreen.Text.Mark

/-! Where in a label the characters may stand that depend on their neighbours. -/
namespace RemoteScreen
namespace Host

open Text (inRanges valueAt?)

/-- With which neighbours a letter joins: the one before it, the one after it, or both. -/
inductive Joins where
  | previous | next | both
  deriving DecidableEq, Repr

/-- The letters that join. -/
def joiningRuns : Array (Nat × Nat × Joins) := #[
  (0x620, 0x620, .both), (0x622, 0x625, .previous), (0x626, 0x626, .both),
  (0x627, 0x627, .previous), (0x628, 0x628, .both), (0x629, 0x629, .previous),
  (0x62A, 0x62E, .both), (0x62F, 0x632, .previous), (0x633, 0x63F, .both), (0x641, 0x647, .both),
  (0x648, 0x648, .previous), (0x649, 0x64A, .both), (0x66E, 0x66F, .both),
  (0x671, 0x673, .previous), (0x675, 0x677, .previous), (0x678, 0x687, .both),
  (0x688, 0x699, .previous), (0x69A, 0x6BF, .both), (0x6C0, 0x6C0, .previous),
  (0x6C1, 0x6C2, .both), (0x6C3, 0x6CB, .previous), (0x6CC, 0x6CC, .both),
  (0x6CD, 0x6CD, .previous), (0x6CE, 0x6CE, .both), (0x6CF, 0x6CF, .previous),
  (0x6D0, 0x6D1, .both), (0x6D2, 0x6D3, .previous), (0x6D5, 0x6D5, .previous),
  (0x6EE, 0x6EF, .previous), (0x6FA, 0x6FC, .both), (0x6FF, 0x6FF, .both),
  (0x710, 0x710, .previous), (0x712, 0x714, .both), (0x715, 0x719, .previous),
  (0x71A, 0x71D, .both), (0x71E, 0x71E, .previous), (0x71F, 0x727, .both),
  (0x728, 0x728, .previous), (0x729, 0x729, .both), (0x72A, 0x72A, .previous),
  (0x72B, 0x72B, .both), (0x72C, 0x72C, .previous), (0x72D, 0x72E, .both),
  (0x72F, 0x72F, .previous), (0x74D, 0x74D, .previous), (0x74E, 0x758, .both),
  (0x759, 0x75B, .previous), (0x75C, 0x76A, .both), (0x76B, 0x76C, .previous),
  (0x76D, 0x770, .both), (0x771, 0x771, .previous), (0x772, 0x772, .both),
  (0x773, 0x774, .previous), (0x775, 0x777, .both), (0x778, 0x779, .previous),
  (0x77A, 0x77F, .both), (0x7CA, 0x7EA, .both), (0x840, 0x840, .previous), (0x841, 0x845, .both),
  (0x846, 0x847, .previous), (0x848, 0x848, .both), (0x849, 0x849, .previous),
  (0x84A, 0x853, .both), (0x854, 0x854, .previous), (0x855, 0x855, .both),
  (0x856, 0x858, .previous), (0x860, 0x860, .both), (0x862, 0x865, .both),
  (0x867, 0x867, .previous), (0x868, 0x868, .both), (0x869, 0x86A, .previous),
  (0x870, 0x882, .previous), (0x886, 0x886, .both), (0x889, 0x88D, .both),
  (0x88E, 0x88E, .previous), (0x88F, 0x88F, .both), (0x8A0, 0x8A9, .both),
  (0x8AA, 0x8AC, .previous), (0x8AE, 0x8AE, .previous), (0x8AF, 0x8B0, .both),
  (0x8B1, 0x8B2, .previous), (0x8B3, 0x8B8, .both), (0x8B9, 0x8B9, .previous),
  (0x8BA, 0x8C8, .both), (0x1807, 0x1807, .both), (0x1820, 0x1878, .both), (0x1887, 0x18A8, .both),
  (0x18AA, 0x18AA, .both), (0xA840, 0xA871, .both), (0xA872, 0xA872, .next),
  (0x10AC0, 0x10AC4, .both), (0x10AC5, 0x10AC5, .previous), (0x10AC7, 0x10AC7, .previous),
  (0x10AC9, 0x10ACA, .previous), (0x10ACD, 0x10ACD, .next), (0x10ACE, 0x10AD2, .previous),
  (0x10AD3, 0x10AD6, .both), (0x10AD7, 0x10AD7, .next), (0x10AD8, 0x10ADC, .both),
  (0x10ADD, 0x10ADD, .previous), (0x10ADE, 0x10AE0, .both), (0x10AE1, 0x10AE1, .previous),
  (0x10AE4, 0x10AE4, .previous), (0x10AEB, 0x10AEE, .both), (0x10AEF, 0x10AEF, .previous),
  (0x10B80, 0x10B80, .both), (0x10B81, 0x10B81, .previous), (0x10B82, 0x10B82, .both),
  (0x10B83, 0x10B85, .previous), (0x10B86, 0x10B88, .both), (0x10B89, 0x10B89, .previous),
  (0x10B8A, 0x10B8B, .both), (0x10B8C, 0x10B8C, .previous), (0x10B8D, 0x10B8D, .both),
  (0x10B8E, 0x10B8F, .previous), (0x10B90, 0x10B90, .both), (0x10B91, 0x10B91, .previous),
  (0x10BA9, 0x10BAC, .previous), (0x10BAD, 0x10BAE, .both), (0x10D00, 0x10D00, .next),
  (0x10D01, 0x10D21, .both), (0x10D22, 0x10D22, .previous), (0x10D23, 0x10D23, .both),
  (0x10EC2, 0x10EC2, .previous), (0x10EC3, 0x10EC4, .both), (0x10EC6, 0x10EC7, .both),
  (0x10F30, 0x10F32, .both), (0x10F33, 0x10F33, .previous), (0x10F34, 0x10F44, .both),
  (0x10F51, 0x10F53, .both), (0x10F54, 0x10F54, .previous), (0x10F70, 0x10F73, .both),
  (0x10F74, 0x10F75, .previous), (0x10F76, 0x10F81, .both), (0x10FB0, 0x10FB0, .both),
  (0x10FB2, 0x10FB3, .both), (0x10FB4, 0x10FB6, .previous), (0x10FB8, 0x10FB8, .both),
  (0x10FB9, 0x10FBA, .previous), (0x10FBB, 0x10FBC, .both), (0x10FBD, 0x10FBD, .previous),
  (0x10FBE, 0x10FBF, .both), (0x10FC1, 0x10FC1, .both), (0x10FC2, 0x10FC3, .previous),
  (0x10FC4, 0x10FC4, .both), (0x10FC9, 0x10FC9, .previous), (0x10FCA, 0x10FCA, .both),
  (0x10FCB, 0x10FCB, .next), (0x1E900, 0x1E943, .both)]

def joinsNext (n : Nat) : Bool :=
  match valueAt? joiningRuns n with
  | some .next | some .both => true
  | _ => false

def joinsPrevious (n : Nat) : Bool :=
  match valueAt? joiningRuns n with
  | some .previous | some .both => true
  | _ => false

/-- The nearest letter, past the marks on it. -/
def nearest (cs : List Nat) : Option Nat := (cs.dropWhile Text.isNonSpacing).head?

/-- A joiner stands after a sign that takes the vowel away; one that keeps letters apart may also
stand between two letters that would join. `before` holds the nearest first. -/
def joinerFits (before : List Nat) (n : Nat) (after : List Nat) : Bool :=
  before.head?.any (fun m => Text.combiningClass m == Text.killerClass) ||
    (n == 0x200C && (nearest before).any joinsNext && (nearest after).any joinsPrevious)

/-- The characters of Greek. -/
def greekRanges : Array (Nat × Nat) := #[
  (0x370, 0x373), (0x375, 0x377), (0x37A, 0x37D), (0x37F, 0x37F), (0x384, 0x384), (0x386, 0x386),
  (0x388, 0x38A), (0x38C, 0x38C), (0x38E, 0x3A1), (0x3A3, 0x3E1), (0x3F0, 0x3FF), (0x1D26, 0x1D2A),
  (0x1D5D, 0x1D61), (0x1D66, 0x1D6A), (0x1DBF, 0x1DBF), (0x1F00, 0x1F15), (0x1F18, 0x1F1D),
  (0x1F20, 0x1F45), (0x1F48, 0x1F4D), (0x1F50, 0x1F57), (0x1F59, 0x1F59), (0x1F5B, 0x1F5B),
  (0x1F5D, 0x1F5D), (0x1F5F, 0x1F7D), (0x1F80, 0x1FB4), (0x1FB6, 0x1FC4), (0x1FC6, 0x1FD3),
  (0x1FD6, 0x1FDB), (0x1FDD, 0x1FEF), (0x1FF2, 0x1FF4), (0x1FF6, 0x1FFE), (0x2126, 0x2126),
  (0xAB65, 0xAB65), (0x10140, 0x1018E), (0x101A0, 0x101A0), (0x1D200, 0x1D245)]

/-- The characters of Hebrew. -/
def hebrewRanges : Array (Nat × Nat) := #[
  (0x591, 0x5C7), (0x5D0, 0x5EA), (0x5EF, 0x5F4), (0xFB1D, 0xFB36), (0xFB38, 0xFB3C),
  (0xFB3E, 0xFB3E), (0xFB40, 0xFB41), (0xFB43, 0xFB44), (0xFB46, 0xFB4F)]

/-- The characters of Hiragana. -/
def hiraganaRanges : Array (Nat × Nat) := #[
  (0x3041, 0x3096), (0x309D, 0x309F), (0x1B001, 0x1B11F), (0x1B132, 0x1B132), (0x1B150, 0x1B152),
  (0x1F200, 0x1F200)]

/-- The characters of Katakana. -/
def katakanaRanges : Array (Nat × Nat) := #[
  (0x30A1, 0x30FA), (0x30FD, 0x30FF), (0x31F0, 0x31FF), (0x32D0, 0x32FE), (0x3300, 0x3357),
  (0xFF66, 0xFF6F), (0xFF71, 0xFF9D), (0x1AFF0, 0x1AFF3), (0x1AFF5, 0x1AFFB), (0x1AFFD, 0x1AFFE),
  (0x1B000, 0x1B000), (0x1B120, 0x1B122), (0x1B155, 0x1B155), (0x1B164, 0x1B167)]

/-- The characters of Han. -/
def hanRanges : Array (Nat × Nat) := #[
  (0x2E80, 0x2E99), (0x2E9B, 0x2EF3), (0x2F00, 0x2FD5), (0x3005, 0x3005), (0x3007, 0x3007),
  (0x3021, 0x3029), (0x3038, 0x303B), (0x3400, 0x4DBF), (0x4E00, 0x9FFF), (0xF900, 0xFA6D),
  (0xFA70, 0xFAD9), (0x16FE2, 0x16FE3), (0x16FF0, 0x16FF6), (0x20000, 0x2A6DF), (0x2A700, 0x2B81D),
  (0x2B820, 0x2CEAD), (0x2CEB0, 0x2EBE0), (0x2EBF0, 0x2EE5D), (0x2F800, 0x2FA1D),
  (0x30000, 0x3134A), (0x31350, 0x33479)]

def isEastern (n : Nat) : Bool :=
  inRanges hiraganaRanges n || inRanges katakanaRanges n || inRanges hanRanges n

/-- Whether a situational character suits its neighbours and the label as a whole. -/
def situationFits (before : List Nat) (n : Nat) (after : List Nat) : Bool :=
  if n = 0xB7 then before.head? == some 0x6C && after.head? == some 0x6C
  else if n = 0x375 then after.head?.any (inRanges greekRanges)
  else if n = 0x5F3 ∨ n = 0x5F4 then before.head?.any (inRanges hebrewRanges)
  else if n = 0x30FB then (before ++ after).any fun m => m != 0x30FB && isEastern m
  else if isArabicDigit n then !(before ++ after).any isPersianDigit
  else !(before ++ after).any isArabicDigit

end Host
end RemoteScreen
