import LexicalFront.Text.CodeSet
set_option autoImplicit false
set_option relaxedAutoImplicit false

/-!
# Code points that may be shown as nothing

The property Default_Ignorable_Code_Point of Unicode 17.0: joiners, selectors of variants, formats,
and the fillers of Hangul syllables, which are letters.
-/

namespace LexicalFront

namespace CodeSet

/-- The code points with the property Default_Ignorable_Code_Point. -/
def defaultIgnorable : CodeSet where
  changes := #[
    0xad, 0xae, 0x34f, 0x350, 0x61c, 0x61d, 0x115f, 0x1161, 0x17b4, 0x17b6, 0x180b, 0x1810,
    0x200b, 0x2010, 0x202a, 0x202f, 0x2060, 0x2070, 0x3164, 0x3165, 0xfe00, 0xfe10, 0xfeff,
    0xff00, 0xffa0, 0xffa1, 0xfff0, 0xfff9, 0x1bca0, 0x1bca4, 0x1d173, 0x1d17b, 0xe0000, 0xe1000]

end CodeSet

end LexicalFront
