import LineExtraction.Unicode.CodePointSet

/-!
# Ranges of the scripts

For each script its name, its four-letter code, and the ranges of the characters
written in it, as the Unicode Character Database lists them.
-/

namespace LineExtraction
namespace Unicode

/-- A script: its names in matching form, and its characters. -/
structure Script where
  names : List String
  ranges : List CodePointRange
deriving Repr

namespace ScriptTable

/-- The script Adlam. -/
def adlam : Script where
  names := ["adlm", "adlam"]
  ranges :=
    [⟨0x1E900, 0x1E94B⟩, ⟨0x1E950, 0x1E959⟩, ⟨0x1E95E, 0x1E95F⟩]

/-- The script Ahom. -/
def ahom : Script where
  names := ["ahom"]
  ranges :=
    [⟨0x11700, 0x1171A⟩, ⟨0x1171D, 0x1172B⟩, ⟨0x11730, 0x11746⟩]

/-- The script Anatolian Hieroglyphs. -/
def anatolianHieroglyphs : Script where
  names := ["hluw", "anatolianhieroglyphs"]
  ranges :=
    [⟨0x14400, 0x14646⟩]

/-- The script Arabic. -/
def arabic : Script where
  names := ["arab", "arabic"]
  ranges :=
    [⟨0x600, 0x604⟩, ⟨0x606, 0x60B⟩, ⟨0x60D, 0x61A⟩, ⟨0x61C, 0x61E⟩, ⟨0x620, 0x63F⟩,
      ⟨0x641, 0x64A⟩, ⟨0x656, 0x66F⟩, ⟨0x671, 0x6DC⟩, ⟨0x6DE, 0x6FF⟩, ⟨0x750, 0x77F⟩,
      ⟨0x870, 0x88E⟩, ⟨0x890, 0x891⟩, ⟨0x897, 0x8E1⟩, ⟨0x8E3, 0x8FF⟩, ⟨0xFB50, 0xFBC2⟩,
      ⟨0xFBD3, 0xFD3D⟩, ⟨0xFD40, 0xFD8F⟩, ⟨0xFD92, 0xFDC7⟩, ⟨0xFDCF, 0xFDCF⟩, ⟨0xFDF0, 0xFDFF⟩,
      ⟨0xFE70, 0xFE74⟩, ⟨0xFE76, 0xFEFC⟩, ⟨0x10E60, 0x10E7E⟩, ⟨0x10EC2, 0x10EC4⟩,
      ⟨0x10EFC, 0x10EFF⟩, ⟨0x1EE00, 0x1EE03⟩, ⟨0x1EE05, 0x1EE1F⟩, ⟨0x1EE21, 0x1EE22⟩,
      ⟨0x1EE24, 0x1EE24⟩, ⟨0x1EE27, 0x1EE27⟩, ⟨0x1EE29, 0x1EE32⟩, ⟨0x1EE34, 0x1EE37⟩,
      ⟨0x1EE39, 0x1EE39⟩, ⟨0x1EE3B, 0x1EE3B⟩, ⟨0x1EE42, 0x1EE42⟩, ⟨0x1EE47, 0x1EE47⟩,
      ⟨0x1EE49, 0x1EE49⟩, ⟨0x1EE4B, 0x1EE4B⟩, ⟨0x1EE4D, 0x1EE4F⟩, ⟨0x1EE51, 0x1EE52⟩,
      ⟨0x1EE54, 0x1EE54⟩, ⟨0x1EE57, 0x1EE57⟩, ⟨0x1EE59, 0x1EE59⟩, ⟨0x1EE5B, 0x1EE5B⟩,
      ⟨0x1EE5D, 0x1EE5D⟩, ⟨0x1EE5F, 0x1EE5F⟩, ⟨0x1EE61, 0x1EE62⟩, ⟨0x1EE64, 0x1EE64⟩,
      ⟨0x1EE67, 0x1EE6A⟩, ⟨0x1EE6C, 0x1EE72⟩, ⟨0x1EE74, 0x1EE77⟩, ⟨0x1EE79, 0x1EE7C⟩,
      ⟨0x1EE7E, 0x1EE7E⟩, ⟨0x1EE80, 0x1EE89⟩, ⟨0x1EE8B, 0x1EE9B⟩, ⟨0x1EEA1, 0x1EEA3⟩,
      ⟨0x1EEA5, 0x1EEA9⟩, ⟨0x1EEAB, 0x1EEBB⟩, ⟨0x1EEF0, 0x1EEF1⟩]

/-- The script Armenian. -/
def armenian : Script where
  names := ["armn", "armenian"]
  ranges :=
    [⟨0x531, 0x556⟩, ⟨0x559, 0x58A⟩, ⟨0x58D, 0x58F⟩, ⟨0xFB13, 0xFB17⟩]

/-- The script Avestan. -/
def avestan : Script where
  names := ["avst", "avestan"]
  ranges :=
    [⟨0x10B00, 0x10B35⟩, ⟨0x10B39, 0x10B3F⟩]

/-- The script Balinese. -/
def balinese : Script where
  names := ["bali", "balinese"]
  ranges :=
    [⟨0x1B00, 0x1B4C⟩, ⟨0x1B4E, 0x1B7F⟩]

/-- The script Bamum. -/
def bamum : Script where
  names := ["bamu", "bamum"]
  ranges :=
    [⟨0xA6A0, 0xA6F7⟩, ⟨0x16800, 0x16A38⟩]

/-- The script Bassa Vah. -/
def bassaVah : Script where
  names := ["bass", "bassavah"]
  ranges :=
    [⟨0x16AD0, 0x16AED⟩, ⟨0x16AF0, 0x16AF5⟩]

/-- The script Batak. -/
def batak : Script where
  names := ["batk", "batak"]
  ranges :=
    [⟨0x1BC0, 0x1BF3⟩, ⟨0x1BFC, 0x1BFF⟩]

/-- The script Bengali. -/
def bengali : Script where
  names := ["beng", "bengali"]
  ranges :=
    [⟨0x980, 0x983⟩, ⟨0x985, 0x98C⟩, ⟨0x98F, 0x990⟩, ⟨0x993, 0x9A8⟩, ⟨0x9AA, 0x9B0⟩,
      ⟨0x9B2, 0x9B2⟩, ⟨0x9B6, 0x9B9⟩, ⟨0x9BC, 0x9C4⟩, ⟨0x9C7, 0x9C8⟩, ⟨0x9CB, 0x9CE⟩,
      ⟨0x9D7, 0x9D7⟩, ⟨0x9DC, 0x9DD⟩, ⟨0x9DF, 0x9E3⟩, ⟨0x9E6, 0x9FE⟩]

/-- The script Bhaiksuki. -/
def bhaiksuki : Script where
  names := ["bhks", "bhaiksuki"]
  ranges :=
    [⟨0x11C00, 0x11C08⟩, ⟨0x11C0A, 0x11C36⟩, ⟨0x11C38, 0x11C45⟩, ⟨0x11C50, 0x11C6C⟩]

/-- The script Bopomofo. -/
def bopomofo : Script where
  names := ["bopo", "bopomofo"]
  ranges :=
    [⟨0x2EA, 0x2EB⟩, ⟨0x3105, 0x312F⟩, ⟨0x31A0, 0x31BF⟩]

/-- The script Brahmi. -/
def brahmi : Script where
  names := ["brah", "brahmi"]
  ranges :=
    [⟨0x11000, 0x1104D⟩, ⟨0x11052, 0x11075⟩, ⟨0x1107F, 0x1107F⟩]

/-- The script Braille. -/
def braille : Script where
  names := ["brai", "braille"]
  ranges :=
    [⟨0x2800, 0x28FF⟩]

/-- The script Buginese. -/
def buginese : Script where
  names := ["bugi", "buginese"]
  ranges :=
    [⟨0x1A00, 0x1A1B⟩, ⟨0x1A1E, 0x1A1F⟩]

/-- The script Buhid. -/
def buhid : Script where
  names := ["buhd", "buhid"]
  ranges :=
    [⟨0x1740, 0x1753⟩]

/-- The script Canadian Aboriginal. -/
def canadianAboriginal : Script where
  names := ["cans", "canadianaboriginal"]
  ranges :=
    [⟨0x1400, 0x167F⟩, ⟨0x18B0, 0x18F5⟩, ⟨0x11AB0, 0x11ABF⟩]

/-- The script Carian. -/
def carian : Script where
  names := ["cari", "carian"]
  ranges :=
    [⟨0x102A0, 0x102D0⟩]

/-- The script Caucasian Albanian. -/
def caucasianAlbanian : Script where
  names := ["aghb", "caucasianalbanian"]
  ranges :=
    [⟨0x10530, 0x10563⟩, ⟨0x1056F, 0x1056F⟩]

/-- The script Chakma. -/
def chakma : Script where
  names := ["cakm", "chakma"]
  ranges :=
    [⟨0x11100, 0x11134⟩, ⟨0x11136, 0x11147⟩]

/-- The script Cham. -/
def cham : Script where
  names := ["cham"]
  ranges :=
    [⟨0xAA00, 0xAA36⟩, ⟨0xAA40, 0xAA4D⟩, ⟨0xAA50, 0xAA59⟩, ⟨0xAA5C, 0xAA5F⟩]

/-- The script Cherokee. -/
def cherokee : Script where
  names := ["cher", "cherokee"]
  ranges :=
    [⟨0x13A0, 0x13F5⟩, ⟨0x13F8, 0x13FD⟩, ⟨0xAB70, 0xABBF⟩]

/-- The script Chorasmian. -/
def chorasmian : Script where
  names := ["chrs", "chorasmian"]
  ranges :=
    [⟨0x10FB0, 0x10FCB⟩]

/-- The script Common. -/
def common : Script where
  names := ["zyyy", "common"]
  ranges :=
    [⟨0x0, 0x40⟩, ⟨0x5B, 0x60⟩, ⟨0x7B, 0xA9⟩, ⟨0xAB, 0xB9⟩, ⟨0xBB, 0xBF⟩, ⟨0xD7, 0xD7⟩,
      ⟨0xF7, 0xF7⟩, ⟨0x2B9, 0x2DF⟩, ⟨0x2E5, 0x2E9⟩, ⟨0x2EC, 0x2FF⟩, ⟨0x374, 0x374⟩,
      ⟨0x37E, 0x37E⟩, ⟨0x385, 0x385⟩, ⟨0x387, 0x387⟩, ⟨0x605, 0x605⟩, ⟨0x60C, 0x60C⟩,
      ⟨0x61B, 0x61B⟩, ⟨0x61F, 0x61F⟩, ⟨0x640, 0x640⟩, ⟨0x6DD, 0x6DD⟩, ⟨0x8E2, 0x8E2⟩,
      ⟨0x964, 0x965⟩, ⟨0xE3F, 0xE3F⟩, ⟨0xFD5, 0xFD8⟩, ⟨0x10FB, 0x10FB⟩, ⟨0x16EB, 0x16ED⟩,
      ⟨0x1735, 0x1736⟩, ⟨0x1802, 0x1803⟩, ⟨0x1805, 0x1805⟩, ⟨0x1CD3, 0x1CD3⟩, ⟨0x1CE1, 0x1CE1⟩,
      ⟨0x1CE9, 0x1CEC⟩, ⟨0x1CEE, 0x1CF3⟩, ⟨0x1CF5, 0x1CF7⟩, ⟨0x1CFA, 0x1CFA⟩, ⟨0x2000, 0x200B⟩,
      ⟨0x200E, 0x2064⟩, ⟨0x2066, 0x2070⟩, ⟨0x2074, 0x207E⟩, ⟨0x2080, 0x208E⟩, ⟨0x20A0, 0x20C0⟩,
      ⟨0x2100, 0x2125⟩, ⟨0x2127, 0x2129⟩, ⟨0x212C, 0x2131⟩, ⟨0x2133, 0x214D⟩, ⟨0x214F, 0x215F⟩,
      ⟨0x2189, 0x218B⟩, ⟨0x2190, 0x2429⟩, ⟨0x2440, 0x244A⟩, ⟨0x2460, 0x27FF⟩, ⟨0x2900, 0x2B73⟩,
      ⟨0x2B76, 0x2B95⟩, ⟨0x2B97, 0x2BFF⟩, ⟨0x2E00, 0x2E5D⟩, ⟨0x2FF0, 0x3004⟩, ⟨0x3006, 0x3006⟩,
      ⟨0x3008, 0x3020⟩, ⟨0x3030, 0x3037⟩, ⟨0x303C, 0x303F⟩, ⟨0x309B, 0x309C⟩, ⟨0x30A0, 0x30A0⟩,
      ⟨0x30FB, 0x30FC⟩, ⟨0x3190, 0x319F⟩, ⟨0x31C0, 0x31E5⟩, ⟨0x31EF, 0x31EF⟩, ⟨0x3220, 0x325F⟩,
      ⟨0x327F, 0x32CF⟩, ⟨0x32FF, 0x32FF⟩, ⟨0x3358, 0x33FF⟩, ⟨0x4DC0, 0x4DFF⟩, ⟨0xA700, 0xA721⟩,
      ⟨0xA788, 0xA78A⟩, ⟨0xA830, 0xA839⟩, ⟨0xA92E, 0xA92E⟩, ⟨0xA9CF, 0xA9CF⟩, ⟨0xAB5B, 0xAB5B⟩,
      ⟨0xAB6A, 0xAB6B⟩, ⟨0xFD3E, 0xFD3F⟩, ⟨0xFE10, 0xFE19⟩, ⟨0xFE30, 0xFE52⟩, ⟨0xFE54, 0xFE66⟩,
      ⟨0xFE68, 0xFE6B⟩, ⟨0xFEFF, 0xFEFF⟩, ⟨0xFF01, 0xFF20⟩, ⟨0xFF3B, 0xFF40⟩, ⟨0xFF5B, 0xFF65⟩,
      ⟨0xFF70, 0xFF70⟩, ⟨0xFF9E, 0xFF9F⟩, ⟨0xFFE0, 0xFFE6⟩, ⟨0xFFE8, 0xFFEE⟩, ⟨0xFFF9, 0xFFFD⟩,
      ⟨0x10100, 0x10102⟩, ⟨0x10107, 0x10133⟩, ⟨0x10137, 0x1013F⟩, ⟨0x10190, 0x1019C⟩,
      ⟨0x101D0, 0x101FC⟩, ⟨0x102E1, 0x102FB⟩, ⟨0x1BCA0, 0x1BCA3⟩, ⟨0x1CC00, 0x1CCF9⟩,
      ⟨0x1CD00, 0x1CEB3⟩, ⟨0x1CF50, 0x1CFC3⟩, ⟨0x1D000, 0x1D0F5⟩, ⟨0x1D100, 0x1D126⟩,
      ⟨0x1D129, 0x1D166⟩, ⟨0x1D16A, 0x1D17A⟩, ⟨0x1D183, 0x1D184⟩, ⟨0x1D18C, 0x1D1A9⟩,
      ⟨0x1D1AE, 0x1D1EA⟩, ⟨0x1D2C0, 0x1D2D3⟩, ⟨0x1D2E0, 0x1D2F3⟩, ⟨0x1D300, 0x1D356⟩,
      ⟨0x1D360, 0x1D378⟩, ⟨0x1D400, 0x1D454⟩, ⟨0x1D456, 0x1D49C⟩, ⟨0x1D49E, 0x1D49F⟩,
      ⟨0x1D4A2, 0x1D4A2⟩, ⟨0x1D4A5, 0x1D4A6⟩, ⟨0x1D4A9, 0x1D4AC⟩, ⟨0x1D4AE, 0x1D4B9⟩,
      ⟨0x1D4BB, 0x1D4BB⟩, ⟨0x1D4BD, 0x1D4C3⟩, ⟨0x1D4C5, 0x1D505⟩, ⟨0x1D507, 0x1D50A⟩,
      ⟨0x1D50D, 0x1D514⟩, ⟨0x1D516, 0x1D51C⟩, ⟨0x1D51E, 0x1D539⟩, ⟨0x1D53B, 0x1D53E⟩,
      ⟨0x1D540, 0x1D544⟩, ⟨0x1D546, 0x1D546⟩, ⟨0x1D54A, 0x1D550⟩, ⟨0x1D552, 0x1D6A5⟩,
      ⟨0x1D6A8, 0x1D7CB⟩, ⟨0x1D7CE, 0x1D7FF⟩, ⟨0x1EC71, 0x1ECB4⟩, ⟨0x1ED01, 0x1ED3D⟩,
      ⟨0x1F000, 0x1F02B⟩, ⟨0x1F030, 0x1F093⟩, ⟨0x1F0A0, 0x1F0AE⟩, ⟨0x1F0B1, 0x1F0BF⟩,
      ⟨0x1F0C1, 0x1F0CF⟩, ⟨0x1F0D1, 0x1F0F5⟩, ⟨0x1F100, 0x1F1AD⟩, ⟨0x1F1E6, 0x1F1FF⟩,
      ⟨0x1F201, 0x1F202⟩, ⟨0x1F210, 0x1F23B⟩, ⟨0x1F240, 0x1F248⟩, ⟨0x1F250, 0x1F251⟩,
      ⟨0x1F260, 0x1F265⟩, ⟨0x1F300, 0x1F6D7⟩, ⟨0x1F6DC, 0x1F6EC⟩, ⟨0x1F6F0, 0x1F6FC⟩,
      ⟨0x1F700, 0x1F776⟩, ⟨0x1F77B, 0x1F7D9⟩, ⟨0x1F7E0, 0x1F7EB⟩, ⟨0x1F7F0, 0x1F7F0⟩,
      ⟨0x1F800, 0x1F80B⟩, ⟨0x1F810, 0x1F847⟩, ⟨0x1F850, 0x1F859⟩, ⟨0x1F860, 0x1F887⟩,
      ⟨0x1F890, 0x1F8AD⟩, ⟨0x1F8B0, 0x1F8BB⟩, ⟨0x1F8C0, 0x1F8C1⟩, ⟨0x1F900, 0x1FA53⟩,
      ⟨0x1FA60, 0x1FA6D⟩, ⟨0x1FA70, 0x1FA7C⟩, ⟨0x1FA80, 0x1FA89⟩, ⟨0x1FA8F, 0x1FAC6⟩,
      ⟨0x1FACE, 0x1FADC⟩, ⟨0x1FADF, 0x1FAE9⟩, ⟨0x1FAF0, 0x1FAF8⟩, ⟨0x1FB00, 0x1FB92⟩,
      ⟨0x1FB94, 0x1FBF9⟩, ⟨0xE0001, 0xE0001⟩, ⟨0xE0020, 0xE007F⟩]

/-- The script Coptic. -/
def coptic : Script where
  names := ["copt", "coptic", "qaac"]
  ranges :=
    [⟨0x3E2, 0x3EF⟩, ⟨0x2C80, 0x2CF3⟩, ⟨0x2CF9, 0x2CFF⟩]

/-- The script Cuneiform. -/
def cuneiform : Script where
  names := ["xsux", "cuneiform"]
  ranges :=
    [⟨0x12000, 0x12399⟩, ⟨0x12400, 0x1246E⟩, ⟨0x12470, 0x12474⟩, ⟨0x12480, 0x12543⟩]

/-- The script Cypriot. -/
def cypriot : Script where
  names := ["cprt", "cypriot"]
  ranges :=
    [⟨0x10800, 0x10805⟩, ⟨0x10808, 0x10808⟩, ⟨0x1080A, 0x10835⟩, ⟨0x10837, 0x10838⟩,
      ⟨0x1083C, 0x1083C⟩, ⟨0x1083F, 0x1083F⟩]

/-- The script Cypro Minoan. -/
def cyproMinoan : Script where
  names := ["cpmn", "cyprominoan"]
  ranges :=
    [⟨0x12F90, 0x12FF2⟩]

/-- The script Cyrillic. -/
def cyrillic : Script where
  names := ["cyrl", "cyrillic"]
  ranges :=
    [⟨0x400, 0x484⟩, ⟨0x487, 0x52F⟩, ⟨0x1C80, 0x1C8A⟩, ⟨0x1D2B, 0x1D2B⟩, ⟨0x1D78, 0x1D78⟩,
      ⟨0x2DE0, 0x2DFF⟩, ⟨0xA640, 0xA69F⟩, ⟨0xFE2E, 0xFE2F⟩, ⟨0x1E030, 0x1E06D⟩,
      ⟨0x1E08F, 0x1E08F⟩]

/-- The script Deseret. -/
def deseret : Script where
  names := ["dsrt", "deseret"]
  ranges :=
    [⟨0x10400, 0x1044F⟩]

/-- The script Devanagari. -/
def devanagari : Script where
  names := ["deva", "devanagari"]
  ranges :=
    [⟨0x900, 0x950⟩, ⟨0x955, 0x963⟩, ⟨0x966, 0x97F⟩, ⟨0xA8E0, 0xA8FF⟩, ⟨0x11B00, 0x11B09⟩]

/-- The script Dives Akuru. -/
def divesAkuru : Script where
  names := ["diak", "divesakuru"]
  ranges :=
    [⟨0x11900, 0x11906⟩, ⟨0x11909, 0x11909⟩, ⟨0x1190C, 0x11913⟩, ⟨0x11915, 0x11916⟩,
      ⟨0x11918, 0x11935⟩, ⟨0x11937, 0x11938⟩, ⟨0x1193B, 0x11946⟩, ⟨0x11950, 0x11959⟩]

/-- The script Dogra. -/
def dogra : Script where
  names := ["dogr", "dogra"]
  ranges :=
    [⟨0x11800, 0x1183B⟩]

/-- The script Duployan. -/
def duployan : Script where
  names := ["dupl", "duployan"]
  ranges :=
    [⟨0x1BC00, 0x1BC6A⟩, ⟨0x1BC70, 0x1BC7C⟩, ⟨0x1BC80, 0x1BC88⟩, ⟨0x1BC90, 0x1BC99⟩,
      ⟨0x1BC9C, 0x1BC9F⟩]

/-- The script Egyptian Hieroglyphs. -/
def egyptianHieroglyphs : Script where
  names := ["egyp", "egyptianhieroglyphs"]
  ranges :=
    [⟨0x13000, 0x13455⟩, ⟨0x13460, 0x143FA⟩]

/-- The script Elbasan. -/
def elbasan : Script where
  names := ["elba", "elbasan"]
  ranges :=
    [⟨0x10500, 0x10527⟩]

/-- The script Elymaic. -/
def elymaic : Script where
  names := ["elym", "elymaic"]
  ranges :=
    [⟨0x10FE0, 0x10FF6⟩]

/-- The script Ethiopic. -/
def ethiopic : Script where
  names := ["ethi", "ethiopic"]
  ranges :=
    [⟨0x1200, 0x1248⟩, ⟨0x124A, 0x124D⟩, ⟨0x1250, 0x1256⟩, ⟨0x1258, 0x1258⟩,
      ⟨0x125A, 0x125D⟩, ⟨0x1260, 0x1288⟩, ⟨0x128A, 0x128D⟩, ⟨0x1290, 0x12B0⟩,
      ⟨0x12B2, 0x12B5⟩, ⟨0x12B8, 0x12BE⟩, ⟨0x12C0, 0x12C0⟩, ⟨0x12C2, 0x12C5⟩,
      ⟨0x12C8, 0x12D6⟩, ⟨0x12D8, 0x1310⟩, ⟨0x1312, 0x1315⟩, ⟨0x1318, 0x135A⟩,
      ⟨0x135D, 0x137C⟩, ⟨0x1380, 0x1399⟩, ⟨0x2D80, 0x2D96⟩, ⟨0x2DA0, 0x2DA6⟩,
      ⟨0x2DA8, 0x2DAE⟩, ⟨0x2DB0, 0x2DB6⟩, ⟨0x2DB8, 0x2DBE⟩, ⟨0x2DC0, 0x2DC6⟩,
      ⟨0x2DC8, 0x2DCE⟩, ⟨0x2DD0, 0x2DD6⟩, ⟨0x2DD8, 0x2DDE⟩, ⟨0xAB01, 0xAB06⟩,
      ⟨0xAB09, 0xAB0E⟩, ⟨0xAB11, 0xAB16⟩, ⟨0xAB20, 0xAB26⟩, ⟨0xAB28, 0xAB2E⟩,
      ⟨0x1E7E0, 0x1E7E6⟩, ⟨0x1E7E8, 0x1E7EB⟩, ⟨0x1E7ED, 0x1E7EE⟩, ⟨0x1E7F0, 0x1E7FE⟩]

/-- The script Garay. -/
def garay : Script where
  names := ["gara", "garay"]
  ranges :=
    [⟨0x10D40, 0x10D65⟩, ⟨0x10D69, 0x10D85⟩, ⟨0x10D8E, 0x10D8F⟩]

/-- The script Georgian. -/
def georgian : Script where
  names := ["geor", "georgian"]
  ranges :=
    [⟨0x10A0, 0x10C5⟩, ⟨0x10C7, 0x10C7⟩, ⟨0x10CD, 0x10CD⟩, ⟨0x10D0, 0x10FA⟩,
      ⟨0x10FC, 0x10FF⟩, ⟨0x1C90, 0x1CBA⟩, ⟨0x1CBD, 0x1CBF⟩, ⟨0x2D00, 0x2D25⟩,
      ⟨0x2D27, 0x2D27⟩, ⟨0x2D2D, 0x2D2D⟩]

/-- The script Glagolitic. -/
def glagolitic : Script where
  names := ["glag", "glagolitic"]
  ranges :=
    [⟨0x2C00, 0x2C5F⟩, ⟨0x1E000, 0x1E006⟩, ⟨0x1E008, 0x1E018⟩, ⟨0x1E01B, 0x1E021⟩,
      ⟨0x1E023, 0x1E024⟩, ⟨0x1E026, 0x1E02A⟩]

/-- The script Gothic. -/
def gothic : Script where
  names := ["goth", "gothic"]
  ranges :=
    [⟨0x10330, 0x1034A⟩]

/-- The script Grantha. -/
def grantha : Script where
  names := ["gran", "grantha"]
  ranges :=
    [⟨0x11300, 0x11303⟩, ⟨0x11305, 0x1130C⟩, ⟨0x1130F, 0x11310⟩, ⟨0x11313, 0x11328⟩,
      ⟨0x1132A, 0x11330⟩, ⟨0x11332, 0x11333⟩, ⟨0x11335, 0x11339⟩, ⟨0x1133C, 0x11344⟩,
      ⟨0x11347, 0x11348⟩, ⟨0x1134B, 0x1134D⟩, ⟨0x11350, 0x11350⟩, ⟨0x11357, 0x11357⟩,
      ⟨0x1135D, 0x11363⟩, ⟨0x11366, 0x1136C⟩, ⟨0x11370, 0x11374⟩]

/-- The script Greek. -/
def greek : Script where
  names := ["grek", "greek"]
  ranges :=
    [⟨0x370, 0x373⟩, ⟨0x375, 0x377⟩, ⟨0x37A, 0x37D⟩, ⟨0x37F, 0x37F⟩, ⟨0x384, 0x384⟩,
      ⟨0x386, 0x386⟩, ⟨0x388, 0x38A⟩, ⟨0x38C, 0x38C⟩, ⟨0x38E, 0x3A1⟩, ⟨0x3A3, 0x3E1⟩,
      ⟨0x3F0, 0x3FF⟩, ⟨0x1D26, 0x1D2A⟩, ⟨0x1D5D, 0x1D61⟩, ⟨0x1D66, 0x1D6A⟩,
      ⟨0x1DBF, 0x1DBF⟩, ⟨0x1F00, 0x1F15⟩, ⟨0x1F18, 0x1F1D⟩, ⟨0x1F20, 0x1F45⟩,
      ⟨0x1F48, 0x1F4D⟩, ⟨0x1F50, 0x1F57⟩, ⟨0x1F59, 0x1F59⟩, ⟨0x1F5B, 0x1F5B⟩,
      ⟨0x1F5D, 0x1F5D⟩, ⟨0x1F5F, 0x1F7D⟩, ⟨0x1F80, 0x1FB4⟩, ⟨0x1FB6, 0x1FC4⟩,
      ⟨0x1FC6, 0x1FD3⟩, ⟨0x1FD6, 0x1FDB⟩, ⟨0x1FDD, 0x1FEF⟩, ⟨0x1FF2, 0x1FF4⟩,
      ⟨0x1FF6, 0x1FFE⟩, ⟨0x2126, 0x2126⟩, ⟨0xAB65, 0xAB65⟩, ⟨0x10140, 0x1018E⟩,
      ⟨0x101A0, 0x101A0⟩, ⟨0x1D200, 0x1D245⟩]

/-- The script Gujarati. -/
def gujarati : Script where
  names := ["gujr", "gujarati"]
  ranges :=
    [⟨0xA81, 0xA83⟩, ⟨0xA85, 0xA8D⟩, ⟨0xA8F, 0xA91⟩, ⟨0xA93, 0xAA8⟩, ⟨0xAAA, 0xAB0⟩,
      ⟨0xAB2, 0xAB3⟩, ⟨0xAB5, 0xAB9⟩, ⟨0xABC, 0xAC5⟩, ⟨0xAC7, 0xAC9⟩, ⟨0xACB, 0xACD⟩,
      ⟨0xAD0, 0xAD0⟩, ⟨0xAE0, 0xAE3⟩, ⟨0xAE6, 0xAF1⟩, ⟨0xAF9, 0xAFF⟩]

/-- The script Gunjala Gondi. -/
def gunjalaGondi : Script where
  names := ["gong", "gunjalagondi"]
  ranges :=
    [⟨0x11D60, 0x11D65⟩, ⟨0x11D67, 0x11D68⟩, ⟨0x11D6A, 0x11D8E⟩, ⟨0x11D90, 0x11D91⟩,
      ⟨0x11D93, 0x11D98⟩, ⟨0x11DA0, 0x11DA9⟩]

/-- The script Gurmukhi. -/
def gurmukhi : Script where
  names := ["guru", "gurmukhi"]
  ranges :=
    [⟨0xA01, 0xA03⟩, ⟨0xA05, 0xA0A⟩, ⟨0xA0F, 0xA10⟩, ⟨0xA13, 0xA28⟩, ⟨0xA2A, 0xA30⟩,
      ⟨0xA32, 0xA33⟩, ⟨0xA35, 0xA36⟩, ⟨0xA38, 0xA39⟩, ⟨0xA3C, 0xA3C⟩, ⟨0xA3E, 0xA42⟩,
      ⟨0xA47, 0xA48⟩, ⟨0xA4B, 0xA4D⟩, ⟨0xA51, 0xA51⟩, ⟨0xA59, 0xA5C⟩, ⟨0xA5E, 0xA5E⟩,
      ⟨0xA66, 0xA76⟩]

/-- The script Gurung Khema. -/
def gurungKhema : Script where
  names := ["gukh", "gurungkhema"]
  ranges :=
    [⟨0x16100, 0x16139⟩]

/-- The script Han. -/
def han : Script where
  names := ["hani", "han"]
  ranges :=
    [⟨0x2E80, 0x2E99⟩, ⟨0x2E9B, 0x2EF3⟩, ⟨0x2F00, 0x2FD5⟩, ⟨0x3005, 0x3005⟩, ⟨0x3007, 0x3007⟩,
      ⟨0x3021, 0x3029⟩, ⟨0x3038, 0x303B⟩, ⟨0x3400, 0x4DBF⟩, ⟨0x4E00, 0x9FFF⟩, ⟨0xF900, 0xFA6D⟩,
      ⟨0xFA70, 0xFAD9⟩, ⟨0x16FE2, 0x16FE3⟩, ⟨0x16FF0, 0x16FF1⟩, ⟨0x20000, 0x2A6DF⟩,
      ⟨0x2A700, 0x2B739⟩, ⟨0x2B740, 0x2B81D⟩, ⟨0x2B820, 0x2CEA1⟩, ⟨0x2CEB0, 0x2EBE0⟩,
      ⟨0x2EBF0, 0x2EE5D⟩, ⟨0x2F800, 0x2FA1D⟩, ⟨0x30000, 0x3134A⟩, ⟨0x31350, 0x323AF⟩]

/-- The script Hangul. -/
def hangul : Script where
  names := ["hang", "hangul"]
  ranges :=
    [⟨0x1100, 0x11FF⟩, ⟨0x302E, 0x302F⟩, ⟨0x3131, 0x318E⟩, ⟨0x3200, 0x321E⟩,
      ⟨0x3260, 0x327E⟩, ⟨0xA960, 0xA97C⟩, ⟨0xAC00, 0xD7A3⟩, ⟨0xD7B0, 0xD7C6⟩,
      ⟨0xD7CB, 0xD7FB⟩, ⟨0xFFA0, 0xFFBE⟩, ⟨0xFFC2, 0xFFC7⟩, ⟨0xFFCA, 0xFFCF⟩,
      ⟨0xFFD2, 0xFFD7⟩, ⟨0xFFDA, 0xFFDC⟩]

/-- The script Hanifi Rohingya. -/
def hanifiRohingya : Script where
  names := ["rohg", "hanifirohingya"]
  ranges :=
    [⟨0x10D00, 0x10D27⟩, ⟨0x10D30, 0x10D39⟩]

/-- The script Hanunoo. -/
def hanunoo : Script where
  names := ["hano", "hanunoo"]
  ranges :=
    [⟨0x1720, 0x1734⟩]

/-- The script Hatran. -/
def hatran : Script where
  names := ["hatr", "hatran"]
  ranges :=
    [⟨0x108E0, 0x108F2⟩, ⟨0x108F4, 0x108F5⟩, ⟨0x108FB, 0x108FF⟩]

/-- The script Hebrew. -/
def hebrew : Script where
  names := ["hebr", "hebrew"]
  ranges :=
    [⟨0x591, 0x5C7⟩, ⟨0x5D0, 0x5EA⟩, ⟨0x5EF, 0x5F4⟩, ⟨0xFB1D, 0xFB36⟩, ⟨0xFB38, 0xFB3C⟩,
      ⟨0xFB3E, 0xFB3E⟩, ⟨0xFB40, 0xFB41⟩, ⟨0xFB43, 0xFB44⟩, ⟨0xFB46, 0xFB4F⟩]

/-- The script Hiragana. -/
def hiragana : Script where
  names := ["hira", "hiragana"]
  ranges :=
    [⟨0x3041, 0x3096⟩, ⟨0x309D, 0x309F⟩, ⟨0x1B001, 0x1B11F⟩, ⟨0x1B132, 0x1B132⟩,
      ⟨0x1B150, 0x1B152⟩, ⟨0x1F200, 0x1F200⟩]

/-- The script Imperial Aramaic. -/
def imperialAramaic : Script where
  names := ["armi", "imperialaramaic"]
  ranges :=
    [⟨0x10840, 0x10855⟩, ⟨0x10857, 0x1085F⟩]

/-- The script Inherited. -/
def inherited : Script where
  names := ["zinh", "inherited", "qaai"]
  ranges :=
    [⟨0x300, 0x36F⟩, ⟨0x485, 0x486⟩, ⟨0x64B, 0x655⟩, ⟨0x670, 0x670⟩, ⟨0x951, 0x954⟩,
      ⟨0x1AB0, 0x1ACE⟩, ⟨0x1CD0, 0x1CD2⟩, ⟨0x1CD4, 0x1CE0⟩, ⟨0x1CE2, 0x1CE8⟩,
      ⟨0x1CED, 0x1CED⟩, ⟨0x1CF4, 0x1CF4⟩, ⟨0x1CF8, 0x1CF9⟩, ⟨0x1DC0, 0x1DFF⟩,
      ⟨0x200C, 0x200D⟩, ⟨0x20D0, 0x20F0⟩, ⟨0x302A, 0x302D⟩, ⟨0x3099, 0x309A⟩,
      ⟨0xFE00, 0xFE0F⟩, ⟨0xFE20, 0xFE2D⟩, ⟨0x101FD, 0x101FD⟩, ⟨0x102E0, 0x102E0⟩,
      ⟨0x1133B, 0x1133B⟩, ⟨0x1CF00, 0x1CF2D⟩, ⟨0x1CF30, 0x1CF46⟩, ⟨0x1D167, 0x1D169⟩,
      ⟨0x1D17B, 0x1D182⟩, ⟨0x1D185, 0x1D18B⟩, ⟨0x1D1AA, 0x1D1AD⟩, ⟨0xE0100, 0xE01EF⟩]

/-- The script Inscriptional Pahlavi. -/
def inscriptionalPahlavi : Script where
  names := ["phli", "inscriptionalpahlavi"]
  ranges :=
    [⟨0x10B60, 0x10B72⟩, ⟨0x10B78, 0x10B7F⟩]

/-- The script Inscriptional Parthian. -/
def inscriptionalParthian : Script where
  names := ["prti", "inscriptionalparthian"]
  ranges :=
    [⟨0x10B40, 0x10B55⟩, ⟨0x10B58, 0x10B5F⟩]

/-- The script Javanese. -/
def javanese : Script where
  names := ["java", "javanese"]
  ranges :=
    [⟨0xA980, 0xA9CD⟩, ⟨0xA9D0, 0xA9D9⟩, ⟨0xA9DE, 0xA9DF⟩]

/-- The script Kaithi. -/
def kaithi : Script where
  names := ["kthi", "kaithi"]
  ranges :=
    [⟨0x11080, 0x110C2⟩, ⟨0x110CD, 0x110CD⟩]

/-- The script Kannada. -/
def kannada : Script where
  names := ["knda", "kannada"]
  ranges :=
    [⟨0xC80, 0xC8C⟩, ⟨0xC8E, 0xC90⟩, ⟨0xC92, 0xCA8⟩, ⟨0xCAA, 0xCB3⟩, ⟨0xCB5, 0xCB9⟩,
      ⟨0xCBC, 0xCC4⟩, ⟨0xCC6, 0xCC8⟩, ⟨0xCCA, 0xCCD⟩, ⟨0xCD5, 0xCD6⟩, ⟨0xCDD, 0xCDE⟩,
      ⟨0xCE0, 0xCE3⟩, ⟨0xCE6, 0xCEF⟩, ⟨0xCF1, 0xCF3⟩]

/-- The script Katakana. -/
def katakana : Script where
  names := ["kana", "katakana"]
  ranges :=
    [⟨0x30A1, 0x30FA⟩, ⟨0x30FD, 0x30FF⟩, ⟨0x31F0, 0x31FF⟩, ⟨0x32D0, 0x32FE⟩,
      ⟨0x3300, 0x3357⟩, ⟨0xFF66, 0xFF6F⟩, ⟨0xFF71, 0xFF9D⟩, ⟨0x1AFF0, 0x1AFF3⟩,
      ⟨0x1AFF5, 0x1AFFB⟩, ⟨0x1AFFD, 0x1AFFE⟩, ⟨0x1B000, 0x1B000⟩, ⟨0x1B120, 0x1B122⟩,
      ⟨0x1B155, 0x1B155⟩, ⟨0x1B164, 0x1B167⟩]

/-- The script Kawi. -/
def kawi : Script where
  names := ["kawi"]
  ranges :=
    [⟨0x11F00, 0x11F10⟩, ⟨0x11F12, 0x11F3A⟩, ⟨0x11F3E, 0x11F5A⟩]

/-- The script Kayah Li. -/
def kayahLi : Script where
  names := ["kali", "kayahli"]
  ranges :=
    [⟨0xA900, 0xA92D⟩, ⟨0xA92F, 0xA92F⟩]

/-- The script Kharoshthi. -/
def kharoshthi : Script where
  names := ["khar", "kharoshthi"]
  ranges :=
    [⟨0x10A00, 0x10A03⟩, ⟨0x10A05, 0x10A06⟩, ⟨0x10A0C, 0x10A13⟩, ⟨0x10A15, 0x10A17⟩,
      ⟨0x10A19, 0x10A35⟩, ⟨0x10A38, 0x10A3A⟩, ⟨0x10A3F, 0x10A48⟩, ⟨0x10A50, 0x10A58⟩]

/-- The script Khitan Small Script. -/
def khitanSmallScript : Script where
  names := ["kits", "khitansmallscript"]
  ranges :=
    [⟨0x16FE4, 0x16FE4⟩, ⟨0x18B00, 0x18CD5⟩, ⟨0x18CFF, 0x18CFF⟩]

/-- The script Khmer. -/
def khmer : Script where
  names := ["khmr", "khmer"]
  ranges :=
    [⟨0x1780, 0x17DD⟩, ⟨0x17E0, 0x17E9⟩, ⟨0x17F0, 0x17F9⟩, ⟨0x19E0, 0x19FF⟩]

/-- The script Khojki. -/
def khojki : Script where
  names := ["khoj", "khojki"]
  ranges :=
    [⟨0x11200, 0x11211⟩, ⟨0x11213, 0x11241⟩]

/-- The script Khudawadi. -/
def khudawadi : Script where
  names := ["sind", "khudawadi"]
  ranges :=
    [⟨0x112B0, 0x112EA⟩, ⟨0x112F0, 0x112F9⟩]

/-- The script Kirat Rai. -/
def kiratRai : Script where
  names := ["krai", "kiratrai"]
  ranges :=
    [⟨0x16D40, 0x16D79⟩]

/-- The script Lao. -/
def lao : Script where
  names := ["laoo", "lao"]
  ranges :=
    [⟨0xE81, 0xE82⟩, ⟨0xE84, 0xE84⟩, ⟨0xE86, 0xE8A⟩, ⟨0xE8C, 0xEA3⟩, ⟨0xEA5, 0xEA5⟩,
      ⟨0xEA7, 0xEBD⟩, ⟨0xEC0, 0xEC4⟩, ⟨0xEC6, 0xEC6⟩, ⟨0xEC8, 0xECE⟩, ⟨0xED0, 0xED9⟩,
      ⟨0xEDC, 0xEDF⟩]

/-- The script Latin. -/
def latin : Script where
  names := ["latn", "latin"]
  ranges :=
    [⟨0x41, 0x5A⟩, ⟨0x61, 0x7A⟩, ⟨0xAA, 0xAA⟩, ⟨0xBA, 0xBA⟩, ⟨0xC0, 0xD6⟩, ⟨0xD8, 0xF6⟩,
      ⟨0xF8, 0x2B8⟩, ⟨0x2E0, 0x2E4⟩, ⟨0x1D00, 0x1D25⟩, ⟨0x1D2C, 0x1D5C⟩, ⟨0x1D62, 0x1D65⟩,
      ⟨0x1D6B, 0x1D77⟩, ⟨0x1D79, 0x1DBE⟩, ⟨0x1E00, 0x1EFF⟩, ⟨0x2071, 0x2071⟩, ⟨0x207F, 0x207F⟩,
      ⟨0x2090, 0x209C⟩, ⟨0x212A, 0x212B⟩, ⟨0x2132, 0x2132⟩, ⟨0x214E, 0x214E⟩, ⟨0x2160, 0x2188⟩,
      ⟨0x2C60, 0x2C7F⟩, ⟨0xA722, 0xA787⟩, ⟨0xA78B, 0xA7CD⟩, ⟨0xA7D0, 0xA7D1⟩, ⟨0xA7D3, 0xA7D3⟩,
      ⟨0xA7D5, 0xA7DC⟩, ⟨0xA7F2, 0xA7FF⟩, ⟨0xAB30, 0xAB5A⟩, ⟨0xAB5C, 0xAB64⟩, ⟨0xAB66, 0xAB69⟩,
      ⟨0xFB00, 0xFB06⟩, ⟨0xFF21, 0xFF3A⟩, ⟨0xFF41, 0xFF5A⟩, ⟨0x10780, 0x10785⟩,
      ⟨0x10787, 0x107B0⟩, ⟨0x107B2, 0x107BA⟩, ⟨0x1DF00, 0x1DF1E⟩, ⟨0x1DF25, 0x1DF2A⟩]

/-- The script Lepcha. -/
def lepcha : Script where
  names := ["lepc", "lepcha"]
  ranges :=
    [⟨0x1C00, 0x1C37⟩, ⟨0x1C3B, 0x1C49⟩, ⟨0x1C4D, 0x1C4F⟩]

/-- The script Limbu. -/
def limbu : Script where
  names := ["limb", "limbu"]
  ranges :=
    [⟨0x1900, 0x191E⟩, ⟨0x1920, 0x192B⟩, ⟨0x1930, 0x193B⟩, ⟨0x1940, 0x1940⟩,
      ⟨0x1944, 0x194F⟩]

/-- The script Linear A. -/
def linearA : Script where
  names := ["lina", "lineara"]
  ranges :=
    [⟨0x10600, 0x10736⟩, ⟨0x10740, 0x10755⟩, ⟨0x10760, 0x10767⟩]

/-- The script Linear B. -/
def linearB : Script where
  names := ["linb", "linearb"]
  ranges :=
    [⟨0x10000, 0x1000B⟩, ⟨0x1000D, 0x10026⟩, ⟨0x10028, 0x1003A⟩, ⟨0x1003C, 0x1003D⟩,
      ⟨0x1003F, 0x1004D⟩, ⟨0x10050, 0x1005D⟩, ⟨0x10080, 0x100FA⟩]

/-- The script Lisu. -/
def lisu : Script where
  names := ["lisu"]
  ranges :=
    [⟨0xA4D0, 0xA4FF⟩, ⟨0x11FB0, 0x11FB0⟩]

/-- The script Lycian. -/
def lycian : Script where
  names := ["lyci", "lycian"]
  ranges :=
    [⟨0x10280, 0x1029C⟩]

/-- The script Lydian. -/
def lydian : Script where
  names := ["lydi", "lydian"]
  ranges :=
    [⟨0x10920, 0x10939⟩, ⟨0x1093F, 0x1093F⟩]

/-- The script Mahajani. -/
def mahajani : Script where
  names := ["mahj", "mahajani"]
  ranges :=
    [⟨0x11150, 0x11176⟩]

/-- The script Makasar. -/
def makasar : Script where
  names := ["maka", "makasar"]
  ranges :=
    [⟨0x11EE0, 0x11EF8⟩]

/-- The script Malayalam. -/
def malayalam : Script where
  names := ["mlym", "malayalam"]
  ranges :=
    [⟨0xD00, 0xD0C⟩, ⟨0xD0E, 0xD10⟩, ⟨0xD12, 0xD44⟩, ⟨0xD46, 0xD48⟩, ⟨0xD4A, 0xD4F⟩,
      ⟨0xD54, 0xD63⟩, ⟨0xD66, 0xD7F⟩]

/-- The script Mandaic. -/
def mandaic : Script where
  names := ["mand", "mandaic"]
  ranges :=
    [⟨0x840, 0x85B⟩, ⟨0x85E, 0x85E⟩]

/-- The script Manichaean. -/
def manichaean : Script where
  names := ["mani", "manichaean"]
  ranges :=
    [⟨0x10AC0, 0x10AE6⟩, ⟨0x10AEB, 0x10AF6⟩]

/-- The script Marchen. -/
def marchen : Script where
  names := ["marc", "marchen"]
  ranges :=
    [⟨0x11C70, 0x11C8F⟩, ⟨0x11C92, 0x11CA7⟩, ⟨0x11CA9, 0x11CB6⟩]

/-- The script Masaram Gondi. -/
def masaramGondi : Script where
  names := ["gonm", "masaramgondi"]
  ranges :=
    [⟨0x11D00, 0x11D06⟩, ⟨0x11D08, 0x11D09⟩, ⟨0x11D0B, 0x11D36⟩, ⟨0x11D3A, 0x11D3A⟩,
      ⟨0x11D3C, 0x11D3D⟩, ⟨0x11D3F, 0x11D47⟩, ⟨0x11D50, 0x11D59⟩]

/-- The script Medefaidrin. -/
def medefaidrin : Script where
  names := ["medf", "medefaidrin"]
  ranges :=
    [⟨0x16E40, 0x16E9A⟩]

/-- The script Meetei Mayek. -/
def meeteiMayek : Script where
  names := ["mtei", "meeteimayek"]
  ranges :=
    [⟨0xAAE0, 0xAAF6⟩, ⟨0xABC0, 0xABED⟩, ⟨0xABF0, 0xABF9⟩]

/-- The script Mende Kikakui. -/
def mendeKikakui : Script where
  names := ["mend", "mendekikakui"]
  ranges :=
    [⟨0x1E800, 0x1E8C4⟩, ⟨0x1E8C7, 0x1E8D6⟩]

/-- The script Meroitic Cursive. -/
def meroiticCursive : Script where
  names := ["merc", "meroiticcursive"]
  ranges :=
    [⟨0x109A0, 0x109B7⟩, ⟨0x109BC, 0x109CF⟩, ⟨0x109D2, 0x109FF⟩]

/-- The script Meroitic Hieroglyphs. -/
def meroiticHieroglyphs : Script where
  names := ["mero", "meroitichieroglyphs"]
  ranges :=
    [⟨0x10980, 0x1099F⟩]

/-- The script Miao. -/
def miao : Script where
  names := ["plrd", "miao"]
  ranges :=
    [⟨0x16F00, 0x16F4A⟩, ⟨0x16F4F, 0x16F87⟩, ⟨0x16F8F, 0x16F9F⟩]

/-- The script Modi. -/
def modi : Script where
  names := ["modi"]
  ranges :=
    [⟨0x11600, 0x11644⟩, ⟨0x11650, 0x11659⟩]

/-- The script Mongolian. -/
def mongolian : Script where
  names := ["mong", "mongolian"]
  ranges :=
    [⟨0x1800, 0x1801⟩, ⟨0x1804, 0x1804⟩, ⟨0x1806, 0x1819⟩, ⟨0x1820, 0x1878⟩,
      ⟨0x1880, 0x18AA⟩, ⟨0x11660, 0x1166C⟩]

/-- The script Mro. -/
def mro : Script where
  names := ["mroo", "mro"]
  ranges :=
    [⟨0x16A40, 0x16A5E⟩, ⟨0x16A60, 0x16A69⟩, ⟨0x16A6E, 0x16A6F⟩]

/-- The script Multani. -/
def multani : Script where
  names := ["mult", "multani"]
  ranges :=
    [⟨0x11280, 0x11286⟩, ⟨0x11288, 0x11288⟩, ⟨0x1128A, 0x1128D⟩, ⟨0x1128F, 0x1129D⟩,
      ⟨0x1129F, 0x112A9⟩]

/-- The script Myanmar. -/
def myanmar : Script where
  names := ["mymr", "myanmar"]
  ranges :=
    [⟨0x1000, 0x109F⟩, ⟨0xA9E0, 0xA9FE⟩, ⟨0xAA60, 0xAA7F⟩, ⟨0x116D0, 0x116E3⟩]

/-- The script Nabataean. -/
def nabataean : Script where
  names := ["nbat", "nabataean"]
  ranges :=
    [⟨0x10880, 0x1089E⟩, ⟨0x108A7, 0x108AF⟩]

/-- The script Nag Mundari. -/
def nagMundari : Script where
  names := ["nagm", "nagmundari"]
  ranges :=
    [⟨0x1E4D0, 0x1E4F9⟩]

/-- The script Nandinagari. -/
def nandinagari : Script where
  names := ["nand", "nandinagari"]
  ranges :=
    [⟨0x119A0, 0x119A7⟩, ⟨0x119AA, 0x119D7⟩, ⟨0x119DA, 0x119E4⟩]

/-- The script New Tai Lue. -/
def newTaiLue : Script where
  names := ["talu", "newtailue"]
  ranges :=
    [⟨0x1980, 0x19AB⟩, ⟨0x19B0, 0x19C9⟩, ⟨0x19D0, 0x19DA⟩, ⟨0x19DE, 0x19DF⟩]

/-- The script Newa. -/
def newa : Script where
  names := ["newa"]
  ranges :=
    [⟨0x11400, 0x1145B⟩, ⟨0x1145D, 0x11461⟩]

/-- The script Nko. -/
def nko : Script where
  names := ["nkoo", "nko"]
  ranges :=
    [⟨0x7C0, 0x7FA⟩, ⟨0x7FD, 0x7FF⟩]

/-- The script Nushu. -/
def nushu : Script where
  names := ["nshu", "nushu"]
  ranges :=
    [⟨0x16FE1, 0x16FE1⟩, ⟨0x1B170, 0x1B2FB⟩]

/-- The script Nyiakeng Puachue Hmong. -/
def nyiakengPuachueHmong : Script where
  names := ["hmnp", "nyiakengpuachuehmong"]
  ranges :=
    [⟨0x1E100, 0x1E12C⟩, ⟨0x1E130, 0x1E13D⟩, ⟨0x1E140, 0x1E149⟩, ⟨0x1E14E, 0x1E14F⟩]

/-- The script Ogham. -/
def ogham : Script where
  names := ["ogam", "ogham"]
  ranges :=
    [⟨0x1680, 0x169C⟩]

/-- The script Ol Chiki. -/
def olChiki : Script where
  names := ["olck", "olchiki"]
  ranges :=
    [⟨0x1C50, 0x1C7F⟩]

/-- The script Ol Onal. -/
def olOnal : Script where
  names := ["onao", "olonal"]
  ranges :=
    [⟨0x1E5D0, 0x1E5FA⟩, ⟨0x1E5FF, 0x1E5FF⟩]

/-- The script Old Hungarian. -/
def oldHungarian : Script where
  names := ["hung", "oldhungarian"]
  ranges :=
    [⟨0x10C80, 0x10CB2⟩, ⟨0x10CC0, 0x10CF2⟩, ⟨0x10CFA, 0x10CFF⟩]

/-- The script Old Italic. -/
def oldItalic : Script where
  names := ["ital", "olditalic"]
  ranges :=
    [⟨0x10300, 0x10323⟩, ⟨0x1032D, 0x1032F⟩]

/-- The script Old North Arabian. -/
def oldNorthArabian : Script where
  names := ["narb", "oldnortharabian"]
  ranges :=
    [⟨0x10A80, 0x10A9F⟩]

/-- The script Old Permic. -/
def oldPermic : Script where
  names := ["perm", "oldpermic"]
  ranges :=
    [⟨0x10350, 0x1037A⟩]

/-- The script Old Persian. -/
def oldPersian : Script where
  names := ["xpeo", "oldpersian"]
  ranges :=
    [⟨0x103A0, 0x103C3⟩, ⟨0x103C8, 0x103D5⟩]

/-- The script Old Sogdian. -/
def oldSogdian : Script where
  names := ["sogo", "oldsogdian"]
  ranges :=
    [⟨0x10F00, 0x10F27⟩]

/-- The script Old South Arabian. -/
def oldSouthArabian : Script where
  names := ["sarb", "oldsoutharabian"]
  ranges :=
    [⟨0x10A60, 0x10A7F⟩]

/-- The script Old Turkic. -/
def oldTurkic : Script where
  names := ["orkh", "oldturkic"]
  ranges :=
    [⟨0x10C00, 0x10C48⟩]

/-- The script Old Uyghur. -/
def oldUyghur : Script where
  names := ["ougr", "olduyghur"]
  ranges :=
    [⟨0x10F70, 0x10F89⟩]

/-- The script Oriya. -/
def oriya : Script where
  names := ["orya", "oriya"]
  ranges :=
    [⟨0xB01, 0xB03⟩, ⟨0xB05, 0xB0C⟩, ⟨0xB0F, 0xB10⟩, ⟨0xB13, 0xB28⟩, ⟨0xB2A, 0xB30⟩,
      ⟨0xB32, 0xB33⟩, ⟨0xB35, 0xB39⟩, ⟨0xB3C, 0xB44⟩, ⟨0xB47, 0xB48⟩, ⟨0xB4B, 0xB4D⟩,
      ⟨0xB55, 0xB57⟩, ⟨0xB5C, 0xB5D⟩, ⟨0xB5F, 0xB63⟩, ⟨0xB66, 0xB77⟩]

/-- The script Osage. -/
def osage : Script where
  names := ["osge", "osage"]
  ranges :=
    [⟨0x104B0, 0x104D3⟩, ⟨0x104D8, 0x104FB⟩]

/-- The script Osmanya. -/
def osmanya : Script where
  names := ["osma", "osmanya"]
  ranges :=
    [⟨0x10480, 0x1049D⟩, ⟨0x104A0, 0x104A9⟩]

/-- The script Pahawh Hmong. -/
def pahawhHmong : Script where
  names := ["hmng", "pahawhhmong"]
  ranges :=
    [⟨0x16B00, 0x16B45⟩, ⟨0x16B50, 0x16B59⟩, ⟨0x16B5B, 0x16B61⟩, ⟨0x16B63, 0x16B77⟩,
      ⟨0x16B7D, 0x16B8F⟩]

/-- The script Palmyrene. -/
def palmyrene : Script where
  names := ["palm", "palmyrene"]
  ranges :=
    [⟨0x10860, 0x1087F⟩]

/-- The script Pau Cin Hau. -/
def pauCinHau : Script where
  names := ["pauc", "paucinhau"]
  ranges :=
    [⟨0x11AC0, 0x11AF8⟩]

/-- The script Phags Pa. -/
def phagsPa : Script where
  names := ["phag", "phagspa"]
  ranges :=
    [⟨0xA840, 0xA877⟩]

/-- The script Phoenician. -/
def phoenician : Script where
  names := ["phnx", "phoenician"]
  ranges :=
    [⟨0x10900, 0x1091B⟩, ⟨0x1091F, 0x1091F⟩]

/-- The script Psalter Pahlavi. -/
def psalterPahlavi : Script where
  names := ["phlp", "psalterpahlavi"]
  ranges :=
    [⟨0x10B80, 0x10B91⟩, ⟨0x10B99, 0x10B9C⟩, ⟨0x10BA9, 0x10BAF⟩]

/-- The script Rejang. -/
def rejang : Script where
  names := ["rjng", "rejang"]
  ranges :=
    [⟨0xA930, 0xA953⟩, ⟨0xA95F, 0xA95F⟩]

/-- The script Runic. -/
def runic : Script where
  names := ["runr", "runic"]
  ranges :=
    [⟨0x16A0, 0x16EA⟩, ⟨0x16EE, 0x16F8⟩]

/-- The script Samaritan. -/
def samaritan : Script where
  names := ["samr", "samaritan"]
  ranges :=
    [⟨0x800, 0x82D⟩, ⟨0x830, 0x83E⟩]

/-- The script Saurashtra. -/
def saurashtra : Script where
  names := ["saur", "saurashtra"]
  ranges :=
    [⟨0xA880, 0xA8C5⟩, ⟨0xA8CE, 0xA8D9⟩]

/-- The script Sharada. -/
def sharada : Script where
  names := ["shrd", "sharada"]
  ranges :=
    [⟨0x11180, 0x111DF⟩]

/-- The script Shavian. -/
def shavian : Script where
  names := ["shaw", "shavian"]
  ranges :=
    [⟨0x10450, 0x1047F⟩]

/-- The script Siddham. -/
def siddham : Script where
  names := ["sidd", "siddham"]
  ranges :=
    [⟨0x11580, 0x115B5⟩, ⟨0x115B8, 0x115DD⟩]

/-- The script SignWriting. -/
def signwriting : Script where
  names := ["sgnw", "signwriting"]
  ranges :=
    [⟨0x1D800, 0x1DA8B⟩, ⟨0x1DA9B, 0x1DA9F⟩, ⟨0x1DAA1, 0x1DAAF⟩]

/-- The script Sinhala. -/
def sinhala : Script where
  names := ["sinh", "sinhala"]
  ranges :=
    [⟨0xD81, 0xD83⟩, ⟨0xD85, 0xD96⟩, ⟨0xD9A, 0xDB1⟩, ⟨0xDB3, 0xDBB⟩, ⟨0xDBD, 0xDBD⟩,
      ⟨0xDC0, 0xDC6⟩, ⟨0xDCA, 0xDCA⟩, ⟨0xDCF, 0xDD4⟩, ⟨0xDD6, 0xDD6⟩, ⟨0xDD8, 0xDDF⟩,
      ⟨0xDE6, 0xDEF⟩, ⟨0xDF2, 0xDF4⟩, ⟨0x111E1, 0x111F4⟩]

/-- The script Sogdian. -/
def sogdian : Script where
  names := ["sogd", "sogdian"]
  ranges :=
    [⟨0x10F30, 0x10F59⟩]

/-- The script Sora Sompeng. -/
def soraSompeng : Script where
  names := ["sora", "sorasompeng"]
  ranges :=
    [⟨0x110D0, 0x110E8⟩, ⟨0x110F0, 0x110F9⟩]

/-- The script Soyombo. -/
def soyombo : Script where
  names := ["soyo", "soyombo"]
  ranges :=
    [⟨0x11A50, 0x11AA2⟩]

/-- The script Sundanese. -/
def sundanese : Script where
  names := ["sund", "sundanese"]
  ranges :=
    [⟨0x1B80, 0x1BBF⟩, ⟨0x1CC0, 0x1CC7⟩]

/-- The script Sunuwar. -/
def sunuwar : Script where
  names := ["sunu", "sunuwar"]
  ranges :=
    [⟨0x11BC0, 0x11BE1⟩, ⟨0x11BF0, 0x11BF9⟩]

/-- The script Syloti Nagri. -/
def sylotiNagri : Script where
  names := ["sylo", "sylotinagri"]
  ranges :=
    [⟨0xA800, 0xA82C⟩]

/-- The script Syriac. -/
def syriac : Script where
  names := ["syrc", "syriac"]
  ranges :=
    [⟨0x700, 0x70D⟩, ⟨0x70F, 0x74A⟩, ⟨0x74D, 0x74F⟩, ⟨0x860, 0x86A⟩]

/-- The script Tagalog. -/
def tagalog : Script where
  names := ["tglg", "tagalog"]
  ranges :=
    [⟨0x1700, 0x1715⟩, ⟨0x171F, 0x171F⟩]

/-- The script Tagbanwa. -/
def tagbanwa : Script where
  names := ["tagb", "tagbanwa"]
  ranges :=
    [⟨0x1760, 0x176C⟩, ⟨0x176E, 0x1770⟩, ⟨0x1772, 0x1773⟩]

/-- The script Tai Le. -/
def taiLe : Script where
  names := ["tale", "taile"]
  ranges :=
    [⟨0x1950, 0x196D⟩, ⟨0x1970, 0x1974⟩]

/-- The script Tai Tham. -/
def taiTham : Script where
  names := ["lana", "taitham"]
  ranges :=
    [⟨0x1A20, 0x1A5E⟩, ⟨0x1A60, 0x1A7C⟩, ⟨0x1A7F, 0x1A89⟩, ⟨0x1A90, 0x1A99⟩,
      ⟨0x1AA0, 0x1AAD⟩]

/-- The script Tai Viet. -/
def taiViet : Script where
  names := ["tavt", "taiviet"]
  ranges :=
    [⟨0xAA80, 0xAAC2⟩, ⟨0xAADB, 0xAADF⟩]

/-- The script Takri. -/
def takri : Script where
  names := ["takr", "takri"]
  ranges :=
    [⟨0x11680, 0x116B9⟩, ⟨0x116C0, 0x116C9⟩]

/-- The script Tamil. -/
def tamil : Script where
  names := ["taml", "tamil"]
  ranges :=
    [⟨0xB82, 0xB83⟩, ⟨0xB85, 0xB8A⟩, ⟨0xB8E, 0xB90⟩, ⟨0xB92, 0xB95⟩, ⟨0xB99, 0xB9A⟩,
      ⟨0xB9C, 0xB9C⟩, ⟨0xB9E, 0xB9F⟩, ⟨0xBA3, 0xBA4⟩, ⟨0xBA8, 0xBAA⟩, ⟨0xBAE, 0xBB9⟩,
      ⟨0xBBE, 0xBC2⟩, ⟨0xBC6, 0xBC8⟩, ⟨0xBCA, 0xBCD⟩, ⟨0xBD0, 0xBD0⟩, ⟨0xBD7, 0xBD7⟩,
      ⟨0xBE6, 0xBFA⟩, ⟨0x11FC0, 0x11FF1⟩, ⟨0x11FFF, 0x11FFF⟩]

/-- The script Tangsa. -/
def tangsa : Script where
  names := ["tnsa", "tangsa"]
  ranges :=
    [⟨0x16A70, 0x16ABE⟩, ⟨0x16AC0, 0x16AC9⟩]

/-- The script Tangut. -/
def tangut : Script where
  names := ["tang", "tangut"]
  ranges :=
    [⟨0x16FE0, 0x16FE0⟩, ⟨0x17000, 0x187F7⟩, ⟨0x18800, 0x18AFF⟩, ⟨0x18D00, 0x18D08⟩]

/-- The script Telugu. -/
def telugu : Script where
  names := ["telu", "telugu"]
  ranges :=
    [⟨0xC00, 0xC0C⟩, ⟨0xC0E, 0xC10⟩, ⟨0xC12, 0xC28⟩, ⟨0xC2A, 0xC39⟩, ⟨0xC3C, 0xC44⟩,
      ⟨0xC46, 0xC48⟩, ⟨0xC4A, 0xC4D⟩, ⟨0xC55, 0xC56⟩, ⟨0xC58, 0xC5A⟩, ⟨0xC5D, 0xC5D⟩,
      ⟨0xC60, 0xC63⟩, ⟨0xC66, 0xC6F⟩, ⟨0xC77, 0xC7F⟩]

/-- The script Thaana. -/
def thaana : Script where
  names := ["thaa", "thaana"]
  ranges :=
    [⟨0x780, 0x7B1⟩]

/-- The script Thai. -/
def thai : Script where
  names := ["thai"]
  ranges :=
    [⟨0xE01, 0xE3A⟩, ⟨0xE40, 0xE5B⟩]

/-- The script Tibetan. -/
def tibetan : Script where
  names := ["tibt", "tibetan"]
  ranges :=
    [⟨0xF00, 0xF47⟩, ⟨0xF49, 0xF6C⟩, ⟨0xF71, 0xF97⟩, ⟨0xF99, 0xFBC⟩, ⟨0xFBE, 0xFCC⟩,
      ⟨0xFCE, 0xFD4⟩, ⟨0xFD9, 0xFDA⟩]

/-- The script Tifinagh. -/
def tifinagh : Script where
  names := ["tfng", "tifinagh"]
  ranges :=
    [⟨0x2D30, 0x2D67⟩, ⟨0x2D6F, 0x2D70⟩, ⟨0x2D7F, 0x2D7F⟩]

/-- The script Tirhuta. -/
def tirhuta : Script where
  names := ["tirh", "tirhuta"]
  ranges :=
    [⟨0x11480, 0x114C7⟩, ⟨0x114D0, 0x114D9⟩]

/-- The script Todhri. -/
def todhri : Script where
  names := ["todr", "todhri"]
  ranges :=
    [⟨0x105C0, 0x105F3⟩]

/-- The script Toto. -/
def toto : Script where
  names := ["toto"]
  ranges :=
    [⟨0x1E290, 0x1E2AE⟩]

/-- The script Tulu Tigalari. -/
def tuluTigalari : Script where
  names := ["tutg", "tulutigalari"]
  ranges :=
    [⟨0x11380, 0x11389⟩, ⟨0x1138B, 0x1138B⟩, ⟨0x1138E, 0x1138E⟩, ⟨0x11390, 0x113B5⟩,
      ⟨0x113B7, 0x113C0⟩, ⟨0x113C2, 0x113C2⟩, ⟨0x113C5, 0x113C5⟩, ⟨0x113C7, 0x113CA⟩,
      ⟨0x113CC, 0x113D5⟩, ⟨0x113D7, 0x113D8⟩, ⟨0x113E1, 0x113E2⟩]

/-- The script Ugaritic. -/
def ugaritic : Script where
  names := ["ugar", "ugaritic"]
  ranges :=
    [⟨0x10380, 0x1039D⟩, ⟨0x1039F, 0x1039F⟩]

/-- The script Vai. -/
def vai : Script where
  names := ["vaii", "vai"]
  ranges :=
    [⟨0xA500, 0xA62B⟩]

/-- The script Vithkuqi. -/
def vithkuqi : Script where
  names := ["vith", "vithkuqi"]
  ranges :=
    [⟨0x10570, 0x1057A⟩, ⟨0x1057C, 0x1058A⟩, ⟨0x1058C, 0x10592⟩, ⟨0x10594, 0x10595⟩,
      ⟨0x10597, 0x105A1⟩, ⟨0x105A3, 0x105B1⟩, ⟨0x105B3, 0x105B9⟩, ⟨0x105BB, 0x105BC⟩]

/-- The script Wancho. -/
def wancho : Script where
  names := ["wcho", "wancho"]
  ranges :=
    [⟨0x1E2C0, 0x1E2F9⟩, ⟨0x1E2FF, 0x1E2FF⟩]

/-- The script Warang Citi. -/
def warangCiti : Script where
  names := ["wara", "warangciti"]
  ranges :=
    [⟨0x118A0, 0x118F2⟩, ⟨0x118FF, 0x118FF⟩]

/-- The script Yezidi. -/
def yezidi : Script where
  names := ["yezi", "yezidi"]
  ranges :=
    [⟨0x10E80, 0x10EA9⟩, ⟨0x10EAB, 0x10EAD⟩, ⟨0x10EB0, 0x10EB1⟩]

/-- The script Yi. -/
def yi : Script where
  names := ["yiii", "yi"]
  ranges :=
    [⟨0xA000, 0xA48C⟩, ⟨0xA490, 0xA4C6⟩]

/-- The script Zanabazar Square. -/
def zanabazarSquare : Script where
  names := ["zanb", "zanabazarsquare"]
  ranges :=
    [⟨0x11A00, 0x11A47⟩]

/-- Every script that has characters. -/
def all : List Script :=
  [adlam, ahom, anatolianHieroglyphs, arabic, armenian, avestan, balinese, bamum, bassaVah,
    batak, bengali, bhaiksuki, bopomofo, brahmi, braille, buginese, buhid,
    canadianAboriginal, carian, caucasianAlbanian, chakma, cham, cherokee, chorasmian,
    common, coptic, cuneiform, cypriot, cyproMinoan, cyrillic, deseret, devanagari,
    divesAkuru, dogra, duployan, egyptianHieroglyphs, elbasan, elymaic, ethiopic, garay,
    georgian, glagolitic, gothic, grantha, greek, gujarati, gunjalaGondi, gurmukhi,
    gurungKhema, han, hangul, hanifiRohingya, hanunoo, hatran, hebrew, hiragana,
    imperialAramaic, inherited, inscriptionalPahlavi, inscriptionalParthian, javanese,
    kaithi, kannada, katakana, kawi, kayahLi, kharoshthi, khitanSmallScript, khmer, khojki,
    khudawadi, kiratRai, lao, latin, lepcha, limbu, linearA, linearB, lisu, lycian, lydian,
    mahajani, makasar, malayalam, mandaic, manichaean, marchen, masaramGondi, medefaidrin,
    meeteiMayek, mendeKikakui, meroiticCursive, meroiticHieroglyphs, miao, modi, mongolian,
    mro, multani, myanmar, nabataean, nagMundari, nandinagari, newa, newTaiLue, nko, nushu,
    nyiakengPuachueHmong, ogham, olChiki, oldHungarian, oldItalic, oldNorthArabian,
    oldPermic, oldPersian, oldSogdian, oldSouthArabian, oldTurkic, oldUyghur, olOnal, oriya,
    osage, osmanya, pahawhHmong, palmyrene, pauCinHau, phagsPa, phoenician, psalterPahlavi,
    rejang, runic, samaritan, saurashtra, sharada, shavian, siddham, signwriting, sinhala,
    sogdian, soraSompeng, soyombo, sundanese, sunuwar, sylotiNagri, syriac, tagalog,
    tagbanwa, taiLe, taiTham, taiViet, takri, tamil, tangsa, tangut, telugu, thaana, thai,
    tibetan, tifinagh, tirhuta, todhri, toto, tuluTigalari, ugaritic, vai, vithkuqi, wancho,
    warangCiti, yezidi, yi, zanabazarSquare]

end ScriptTable
end Unicode
end LineExtraction
