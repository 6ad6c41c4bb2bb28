import PivotTable.Unicode.Table

/-!
# Canonical decomposition

The full canonical decomposition of a character, without the reordering of marks that a normal form
adds. Hangul syllables decompose by arithmetic, all others by a table.
-/
set_option maxRecDepth 20000

namespace PivotTable.Unicode

/-- Entries in increasing order of their last code point, which decomposes into the ones before it;
each code point after the first takes six hexadecimal digits. -/
def decompositions : Array Nat := #[
  0x41_000300_0000C0, 0x41_000301_0000C1, 0x41_000302_0000C2, 0x41_000303_0000C3,
  0x41_000308_0000C4, 0x41_00030A_0000C5, 0x43_000327_0000C7, 0x45_000300_0000C8,
  0x45_000301_0000C9, 0x45_000302_0000CA, 0x45_000308_0000CB, 0x49_000300_0000CC,
  0x49_000301_0000CD, 0x49_000302_0000CE, 0x49_000308_0000CF, 0x4E_000303_0000D1,
  0x4F_000300_0000D2, 0x4F_000301_0000D3, 0x4F_000302_0000D4, 0x4F_000303_0000D5,
  0x4F_000308_0000D6, 0x55_000300_0000D9, 0x55_000301_0000DA, 0x55_000302_0000DB,
  0x55_000308_0000DC, 0x59_000301_0000DD, 0x61_000300_0000E0, 0x61_000301_0000E1,
  0x61_000302_0000E2, 0x61_000303_0000E3, 0x61_000308_0000E4, 0x61_00030A_0000E5,
  0x63_000327_0000E7, 0x65_000300_0000E8, 0x65_000301_0000E9, 0x65_000302_0000EA,
  0x65_000308_0000EB, 0x69_000300_0000EC, 0x69_000301_0000ED, 0x69_000302_0000EE,
  0x69_000308_0000EF, 0x6E_000303_0000F1, 0x6F_000300_0000F2, 0x6F_000301_0000F3,
  0x6F_000302_0000F4, 0x6F_000303_0000F5, 0x6F_000308_0000F6, 0x75_000300_0000F9,
  0x75_000301_0000FA, 0x75_000302_0000FB, 0x75_000308_0000FC, 0x79_000301_0000FD,
  0x79_000308_0000FF, 0x41_000304_000100, 0x61_000304_000101, 0x41_000306_000102,
  0x61_000306_000103, 0x41_000328_000104, 0x61_000328_000105, 0x43_000301_000106,
  0x63_000301_000107, 0x43_000302_000108, 0x63_000302_000109, 0x43_000307_00010A,
  0x63_000307_00010B, 0x43_00030C_00010C, 0x63_00030C_00010D, 0x44_00030C_00010E,
  0x64_00030C_00010F, 0x45_000304_000112, 0x65_000304_000113, 0x45_000306_000114,
  0x65_000306_000115, 0x45_000307_000116, 0x65_000307_000117, 0x45_000328_000118,
  0x65_000328_000119, 0x45_00030C_00011A, 0x65_00030C_00011B, 0x47_000302_00011C,
  0x67_000302_00011D, 0x47_000306_00011E, 0x67_000306_00011F, 0x47_000307_000120,
  0x67_000307_000121, 0x47_000327_000122, 0x67_000327_000123, 0x48_000302_000124,
  0x68_000302_000125, 0x49_000303_000128, 0x69_000303_000129, 0x49_000304_00012A,
  0x69_000304_00012B, 0x49_000306_00012C, 0x69_000306_00012D, 0x49_000328_00012E,
  0x69_000328_00012F, 0x49_000307_000130, 0x4A_000302_000134, 0x6A_000302_000135,
  0x4B_000327_000136, 0x6B_000327_000137, 0x4C_000301_000139, 0x6C_000301_00013A,
  0x4C_000327_00013B, 0x6C_000327_00013C, 0x4C_00030C_00013D, 0x6C_00030C_00013E,
  0x4E_000301_000143, 0x6E_000301_000144, 0x4E_000327_000145, 0x6E_000327_000146,
  0x4E_00030C_000147, 0x6E_00030C_000148, 0x4F_000304_00014C, 0x6F_000304_00014D,
  0x4F_000306_00014E, 0x6F_000306_00014F, 0x4F_00030B_000150, 0x6F_00030B_000151,
  0x52_000301_000154, 0x72_000301_000155, 0x52_000327_000156, 0x72_000327_000157,
  0x52_00030C_000158, 0x72_00030C_000159, 0x53_000301_00015A, 0x73_000301_00015B,
  0x53_000302_00015C, 0x73_000302_00015D, 0x53_000327_00015E, 0x73_000327_00015F,
  0x53_00030C_000160, 0x73_00030C_000161, 0x54_000327_000162, 0x74_000327_000163,
  0x54_00030C_000164, 0x74_00030C_000165, 0x55_000303_000168, 0x75_000303_000169,
  0x55_000304_00016A, 0x75_000304_00016B, 0x55_000306_00016C, 0x75_000306_00016D,
  0x55_00030A_00016E, 0x75_00030A_00016F, 0x55_00030B_000170, 0x75_00030B_000171,
  0x55_000328_000172, 0x75_000328_000173, 0x57_000302_000174, 0x77_000302_000175,
  0x59_000302_000176, 0x79_000302_000177, 0x59_000308_000178, 0x5A_000301_000179,
  0x7A_000301_00017A, 0x5A_000307_00017B, 0x7A_000307_00017C, 0x5A_00030C_00017D,
  0x7A_00030C_00017E, 0x4F_00031B_0001A0, 0x6F_00031B_0001A1, 0x55_00031B_0001AF,
  0x75_00031B_0001B0, 0x41_00030C_0001CD, 0x61_00030C_0001CE, 0x49_00030C_0001CF,
  0x69_00030C_0001D0, 0x4F_00030C_0001D1, 0x6F_00030C_0001D2, 0x55_00030C_0001D3,
  0x75_00030C_0001D4, 0x55_000308_000304_0001D5, 0x75_000308_000304_0001D6,
  0x55_000308_000301_0001D7, 0x75_000308_000301_0001D8, 0x55_000308_00030C_0001D9,
  0x75_000308_00030C_0001DA, 0x55_000308_000300_0001DB, 0x75_000308_000300_0001DC,
  0x41_000308_000304_0001DE, 0x61_000308_000304_0001DF, 0x41_000307_000304_0001E0,
  0x61_000307_000304_0001E1, 0xC6_000304_0001E2, 0xE6_000304_0001E3, 0x47_00030C_0001E6,
  0x67_00030C_0001E7, 0x4B_00030C_0001E8, 0x6B_00030C_0001E9, 0x4F_000328_0001EA,
  0x6F_000328_0001EB, 0x4F_000328_000304_0001EC, 0x6F_000328_000304_0001ED, 0x1B7_00030C_0001EE,
  0x292_00030C_0001EF, 0x6A_00030C_0001F0, 0x47_000301_0001F4, 0x67_000301_0001F5,
  0x4E_000300_0001F8, 0x6E_000300_0001F9, 0x41_00030A_000301_0001FA, 0x61_00030A_000301_0001FB,
  0xC6_000301_0001FC, 0xE6_000301_0001FD, 0xD8_000301_0001FE, 0xF8_000301_0001FF,
  0x41_00030F_000200, 0x61_00030F_000201, 0x41_000311_000202, 0x61_000311_000203,
  0x45_00030F_000204, 0x65_00030F_000205, 0x45_000311_000206, 0x65_000311_000207,
  0x49_00030F_000208, 0x69_00030F_000209, 0x49_000311_00020A, 0x69_000311_00020B,
  0x4F_00030F_00020C, 0x6F_00030F_00020D, 0x4F_000311_00020E, 0x6F_000311_00020F,
  0x52_00030F_000210, 0x72_00030F_000211, 0x52_000311_000212, 0x72_000311_000213,
  0x55_00030F_000214, 0x75_00030F_000215, 0x55_000311_000216, 0x75_000311_000217,
  0x53_000326_000218, 0x73_000326_000219, 0x54_000326_00021A, 0x74_000326_00021B,
  0x48_00030C_00021E, 0x68_00030C_00021F, 0x41_000307_000226, 0x61_000307_000227,
  0x45_000327_000228, 0x65_000327_000229, 0x4F_000308_000304_00022A, 0x6F_000308_000304_00022B,
  0x4F_000303_000304_00022C, 0x6F_000303_000304_00022D, 0x4F_000307_00022E, 0x6F_000307_00022F,
  0x4F_000307_000304_000230, 0x6F_000307_000304_000231, 0x59_000304_000232, 0x79_000304_000233,
  0x300_000340, 0x301_000341, 0x313_000343, 0x308_000301_000344, 0x2B9_000374, 0x3B_00037E,
  0xA8_000301_000385, 0x391_000301_000386, 0xB7_000387, 0x395_000301_000388, 0x397_000301_000389,
  0x399_000301_00038A, 0x39F_000301_00038C, 0x3A5_000301_00038E, 0x3A9_000301_00038F,
  0x3B9_000308_000301_000390, 0x399_000308_0003AA, 0x3A5_000308_0003AB, 0x3B1_000301_0003AC,
  0x3B5_000301_0003AD, 0x3B7_000301_0003AE, 0x3B9_000301_0003AF, 0x3C5_000308_000301_0003B0,
  0x3B9_000308_0003CA, 0x3C5_000308_0003CB, 0x3BF_000301_0003CC, 0x3C5_000301_0003CD,
  0x3C9_000301_0003CE, 0x3D2_000301_0003D3, 0x3D2_000308_0003D4, 0x415_000300_000400,
  0x415_000308_000401, 0x413_000301_000403, 0x406_000308_000407, 0x41A_000301_00040C,
  0x418_000300_00040D, 0x423_000306_00040E, 0x418_000306_000419, 0x438_000306_000439,
  0x435_000300_000450, 0x435_000308_000451, 0x433_000301_000453, 0x456_000308_000457,
  0x43A_000301_00045C, 0x438_000300_00045D, 0x443_000306_00045E, 0x474_00030F_000476,
  0x475_00030F_000477, 0x416_000306_0004C1, 0x436_000306_0004C2, 0x410_000306_0004D0,
  0x430_000306_0004D1, 0x410_000308_0004D2, 0x430_000308_0004D3, 0x415_000306_0004D6,
  0x435_000306_0004D7, 0x4D8_000308_0004DA, 0x4D9_000308_0004DB, 0x416_000308_0004DC,
  0x436_000308_0004DD, 0x417_000308_0004DE, 0x437_000308_0004DF, 0x418_000304_0004E2,
  0x438_000304_0004E3, 0x418_000308_0004E4, 0x438_000308_0004E5, 0x41E_000308_0004E6,
  0x43E_000308_0004E7, 0x4E8_000308_0004EA, 0x4E9_000308_0004EB, 0x42D_000308_0004EC,
  0x44D_000308_0004ED, 0x423_000304_0004EE, 0x443_000304_0004EF, 0x423_000308_0004F0,
  0x443_000308_0004F1, 0x423_00030B_0004F2, 0x443_00030B_0004F3, 0x427_000308_0004F4,
  0x447_000308_0004F5, 0x42B_000308_0004F8, 0x44B_000308_0004F9, 0x627_000653_000622,
  0x627_000654_000623, 0x648_000654_000624, 0x627_000655_000625, 0x64A_000654_000626,
  0x6D5_000654_0006C0, 0x6C1_000654_0006C2, 0x6D2_000654_0006D3, 0x928_00093C_000929,
  0x930_00093C_000931, 0x933_00093C_000934, 0x915_00093C_000958, 0x916_00093C_000959,
  0x917_00093C_00095A, 0x91C_00093C_00095B, 0x921_00093C_00095C, 0x922_00093C_00095D,
  0x92B_00093C_00095E, 0x92F_00093C_00095F, 0x9C7_0009BE_0009CB, 0x9C7_0009D7_0009CC,
  0x9A1_0009BC_0009DC, 0x9A2_0009BC_0009DD, 0x9AF_0009BC_0009DF, 0xA32_000A3C_000A33,
  0xA38_000A3C_000A36, 0xA16_000A3C_000A59, 0xA17_000A3C_000A5A, 0xA1C_000A3C_000A5B,
  0xA2B_000A3C_000A5E, 0xB47_000B56_000B48, 0xB47_000B3E_000B4B, 0xB47_000B57_000B4C,
  0xB21_000B3C_000B5C, 0xB22_000B3C_000B5D, 0xB92_000BD7_000B94, 0xBC6_000BBE_000BCA,
  0xBC7_000BBE_000BCB, 0xBC6_000BD7_000BCC, 0xC46_000C56_000C48, 0xCBF_000CD5_000CC0,
  0xCC6_000CD5_000CC7, 0xCC6_000CD6_000CC8, 0xCC6_000CC2_000CCA, 0xCC6_000CC2_000CD5_000CCB,
  0xD46_000D3E_000D4A, 0xD47_000D3E_000D4B, 0xD46_000D57_000D4C, 0xDD9_000DCA_000DDA,
  0xDD9_000DCF_000DDC, 0xDD9_000DCF_000DCA_000DDD, 0xDD9_000DDF_000DDE, 0xF42_000FB7_000F43,
  0xF4C_000FB7_000F4D, 0xF51_000FB7_000F52, 0xF56_000FB7_000F57, 0xF5B_000FB7_000F5C,
  0xF40_000FB5_000F69, 0xF71_000F72_000F73, 0xF71_000F74_000F75, 0xFB2_000F80_000F76,
  0xFB3_000F80_000F78, 0xF71_000F80_000F81, 0xF92_000FB7_000F93, 0xF9C_000FB7_000F9D,
  0xFA1_000FB7_000FA2, 0xFA6_000FB7_000FA7, 0xFAB_000FB7_000FAC, 0xF90_000FB5_000FB9,
  0x1025_00102E_001026, 0x1B05_001B35_001B06, 0x1B07_001B35_001B08, 0x1B09_001B35_001B0A,
  0x1B0B_001B35_001B0C, 0x1B0D_001B35_001B0E, 0x1B11_001B35_001B12, 0x1B3A_001B35_001B3B,
  0x1B3C_001B35_001B3D, 0x1B3E_001B35_001B40, 0x1B3F_001B35_001B41, 0x1B42_001B35_001B43,
  0x41_000325_001E00, 0x61_000325_001E01, 0x42_000307_001E02, 0x62_000307_001E03,
  0x42_000323_001E04, 0x62_000323_001E05, 0x42_000331_001E06, 0x62_000331_001E07,
  0x43_000327_000301_001E08, 0x63_000327_000301_001E09, 0x44_000307_001E0A, 0x64_000307_001E0B,
  0x44_000323_001E0C, 0x64_000323_001E0D, 0x44_000331_001E0E, 0x64_000331_001E0F,
  0x44_000327_001E10, 0x64_000327_001E11, 0x44_00032D_001E12, 0x64_00032D_001E13,
  0x45_000304_000300_001E14, 0x65_000304_000300_001E15, 0x45_000304_000301_001E16,
  0x65_000304_000301_001E17, 0x45_00032D_001E18, 0x65_00032D_001E19, 0x45_000330_001E1A,
  0x65_000330_001E1B, 0x45_000327_000306_001E1C, 0x65_000327_000306_001E1D, 0x46_000307_001E1E,
  0x66_000307_001E1F, 0x47_000304_001E20, 0x67_000304_001E21, 0x48_000307_001E22,
  0x68_000307_001E23, 0x48_000323_001E24, 0x68_000323_001E25, 0x48_000308_001E26,
  0x68_000308_001E27, 0x48_000327_001E28, 0x68_000327_001E29, 0x48_00032E_001E2A,
  0x68_00032E_001E2B, 0x49_000330_001E2C, 0x69_000330_001E2D, 0x49_000308_000301_001E2E,
  0x69_000308_000301_001E2F, 0x4B_000301_001E30, 0x6B_000301_001E31, 0x4B_000323_001E32,
  0x6B_000323_001E33, 0x4B_000331_001E34, 0x6B_000331_001E35, 0x4C_000323_001E36,
  0x6C_000323_001E37, 0x4C_000323_000304_001E38, 0x6C_000323_000304_001E39, 0x4C_000331_001E3A,
  0x6C_000331_001E3B, 0x4C_00032D_001E3C, 0x6C_00032D_001E3D, 0x4D_000301_001E3E,
  0x6D_000301_001E3F, 0x4D_000307_001E40, 0x6D_000307_001E41, 0x4D_000323_001E42,
  0x6D_000323_001E43, 0x4E_000307_001E44, 0x6E_000307_001E45, 0x4E_000323_001E46,
  0x6E_000323_001E47, 0x4E_000331_001E48, 0x6E_000331_001E49, 0x4E_00032D_001E4A,
  0x6E_00032D_001E4B, 0x4F_000303_000301_001E4C, 0x6F_000303_000301_001E4D,
  0x4F_000303_000308_001E4E, 0x6F_000303_000308_001E4F, 0x4F_000304_000300_001E50,
  0x6F_000304_000300_001E51, 0x4F_000304_000301_001E52, 0x6F_000304_000301_001E53,
  0x50_000301_001E54, 0x70_000301_001E55, 0x50_000307_001E56, 0x70_000307_001E57,
  0x52_000307_001E58, 0x72_000307_001E59, 0x52_000323_001E5A, 0x72_000323_001E5B,
  0x52_000323_000304_001E5C, 0x72_000323_000304_001E5D, 0x52_000331_001E5E, 0x72_000331_001E5F,
  0x53_000307_001E60, 0x73_000307_001E61, 0x53_000323_001E62, 0x73_000323_001E63,
  0x53_000301_000307_001E64, 0x73_000301_000307_001E65, 0x53_00030C_000307_001E66,
  0x73_00030C_000307_001E67, 0x53_000323_000307_001E68, 0x73_000323_000307_001E69,
  0x54_000307_001E6A, 0x74_000307_001E6B, 0x54_000323_001E6C, 0x74_000323_001E6D,
  0x54_000331_001E6E, 0x74_000331_001E6F, 0x54_00032D_001E70, 0x74_00032D_001E71,
  0x55_000324_001E72, 0x75_000324_001E73, 0x55_000330_001E74, 0x75_000330_001E75,
  0x55_00032D_001E76, 0x75_00032D_001E77, 0x55_000303_000301_001E78, 0x75_000303_000301_001E79,
  0x55_000304_000308_001E7A, 0x75_000304_000308_001E7B, 0x56_000303_001E7C, 0x76_000303_001E7D,
  0x56_000323_001E7E, 0x76_000323_001E7F, 0x57_000300_001E80, 0x77_000300_001E81,
  0x57_000301_001E82, 0x77_000301_001E83, 0x57_000308_001E84, 0x77_000308_001E85,
  0x57_000307_001E86, 0x77_000307_001E87, 0x57_000323_001E88, 0x77_000323_001E89,
  0x58_000307_001E8A, 0x78_000307_001E8B, 0x58_000308_001E8C, 0x78_000308_001E8D,
  0x59_000307_001E8E, 0x79_000307_001E8F, 0x5A_000302_001E90, 0x7A_000302_001E91,
  0x5A_000323_001E92, 0x7A_000323_001E93, 0x5A_000331_001E94, 0x7A_000331_001E95,
  0x68_000331_001E96, 0x74_000308_001E97, 0x77_00030A_001E98, 0x79_00030A_001E99,
  0x17F_000307_001E9B, 0x41_000323_001EA0, 0x61_000323_001EA1, 0x41_000309_001EA2,
  0x61_000309_001EA3, 0x41_000302_000301_001EA4, 0x61_000302_000301_001EA5,
  0x41_000302_000300_001EA6, 0x61_000302_000300_001EA7, 0x41_000302_000309_001EA8,
  0x61_000302_000309_001EA9, 0x41_000302_000303_001EAA, 0x61_000302_000303_001EAB,
  0x41_000323_000302_001EAC, 0x61_000323_000302_001EAD, 0x41_000306_000301_001EAE,
  0x61_000306_000301_001EAF, 0x41_000306_000300_001EB0, 0x61_000306_000300_001EB1,
  0x41_000306_000309_001EB2, 0x61_000306_000309_001EB3, 0x41_000306_000303_001EB4,
  0x61_000306_000303_001EB5, 0x41_000323_000306_001EB6, 0x61_000323_000306_001EB7,
  0x45_000323_001EB8, 0x65_000323_001EB9, 0x45_000309_001EBA, 0x65_000309_001EBB,
  0x45_000303_001EBC, 0x65_000303_001EBD, 0x45_000302_000301_001EBE, 0x65_000302_000301_001EBF,
  0x45_000302_000300_001EC0, 0x65_000302_000300_001EC1, 0x45_000302_000309_001EC2,
  0x65_000302_000309_001EC3, 0x45_000302_000303_001EC4, 0x65_000302_000303_001EC5,
  0x45_000323_000302_001EC6, 0x65_000323_000302_001EC7, 0x49_000309_001EC8, 0x69_000309_001EC9,
  0x49_000323_001ECA, 0x69_000323_001ECB, 0x4F_000323_001ECC, 0x6F_000323_001ECD,
  0x4F_000309_001ECE, 0x6F_000309_001ECF, 0x4F_000302_000301_001ED0, 0x6F_000302_000301_001ED1,
  0x4F_000302_000300_001ED2, 0x6F_000302_000300_001ED3, 0x4F_000302_000309_001ED4,
  0x6F_000302_000309_001ED5, 0x4F_000302_000303_001ED6, 0x6F_000302_000303_001ED7,
  0x4F_000323_000302_001ED8, 0x6F_000323_000302_001ED9, 0x4F_00031B_000301_001EDA,
  0x6F_00031B_000301_001EDB, 0x4F_00031B_000300_001EDC, 0x6F_00031B_000300_001EDD,
  0x4F_00031B_000309_001EDE, 0x6F_00031B_000309_001EDF, 0x4F_00031B_000303_001EE0,
  0x6F_00031B_000303_001EE1, 0x4F_00031B_000323_001EE2, 0x6F_00031B_000323_001EE3,
  0x55_000323_001EE4, 0x75_000323_001EE5, 0x55_000309_001EE6, 0x75_000309_001EE7,
  0x55_00031B_000301_001EE8, 0x75_00031B_000301_001EE9, 0x55_00031B_000300_001EEA,
  0x75_00031B_000300_001EEB, 0x55_00031B_000309_001EEC, 0x75_00031B_000309_001EED,
  0x55_00031B_000303_001EEE, 0x75_00031B_000303_001EEF, 0x55_00031B_000323_001EF0,
  0x75_00031B_000323_001EF1, 0x59_000300_001EF2, 0x79_000300_001EF3, 0x59_000323_001EF4,
  0x79_000323_001EF5, 0x59_000309_001EF6, 0x79_000309_001EF7, 0x59_000303_001EF8,
  0x79_000303_001EF9, 0x3B1_000313_001F00, 0x3B1_000314_001F01, 0x3B1_000313_000300_001F02,
  0x3B1_000314_000300_001F03, 0x3B1_000313_000301_001F04, 0x3B1_000314_000301_001F05,
  0x3B1_000313_000342_001F06, 0x3B1_000314_000342_001F07, 0x391_000313_001F08,
  0x391_000314_001F09, 0x391_000313_000300_001F0A, 0x391_000314_000300_001F0B,
  0x391_000313_000301_001F0C, 0x391_000314_000301_001F0D, 0x391_000313_000342_001F0E,
  0x391_000314_000342_001F0F, 0x3B5_000313_001F10, 0x3B5_000314_001F11,
  0x3B5_000313_000300_001F12, 0x3B5_000314_000300_001F13, 0x3B5_000313_000301_001F14,
  0x3B5_000314_000301_001F15, 0x395_000313_001F18, 0x395_000314_001F19,
  0x395_000313_000300_001F1A, 0x395_000314_000300_001F1B, 0x395_000313_000301_001F1C,
  0x395_000314_000301_001F1D, 0x3B7_000313_001F20, 0x3B7_000314_001F21,
  0x3B7_000313_000300_001F22, 0x3B7_000314_000300_001F23, 0x3B7_000313_000301_001F24,
  0x3B7_000314_000301_001F25, 0x3B7_000313_000342_001F26, 0x3B7_000314_000342_001F27,
  0x397_000313_001F28, 0x397_000314_001F29, 0x397_000313_000300_001F2A,
  0x397_000314_000300_001F2B, 0x397_000313_000301_001F2C, 0x397_000314_000301_001F2D,
  0x397_000313_000342_001F2E, 0x397_000314_000342_001F2F, 0x3B9_000313_001F30,
  0x3B9_000314_001F31, 0x3B9_000313_000300_001F32, 0x3B9_000314_000300_001F33,
  0x3B9_000313_000301_001F34, 0x3B9_000314_000301_001F35, 0x3B9_000313_000342_001F36,
  0x3B9_000314_000342_001F37, 0x399_000313_001F38, 0x399_000314_001F39,
  0x399_000313_000300_001F3A, 0x399_000314_000300_001F3B, 0x399_000313_000301_001F3C,
  0x399_000314_000301_001F3D, 0x399_000313_000342_001F3E, 0x399_000314_000342_001F3F,
  0x3BF_000313_001F40, 0x3BF_000314_001F41, 0x3BF_000313_000300_001F42,
  0x3BF_000314_000300_001F43, 0x3BF_000313_000301_001F44, 0x3BF_000314_000301_001F45,
  0x39F_000313_001F48, 0x39F_000314_001F49, 0x39F_000313_000300_001F4A,
  0x39F_000314_000300_001F4B, 0x39F_000313_000301_001F4C, 0x39F_000314_000301_001F4D,
  0x3C5_000313_001F50, 0x3C5_000314_001F51, 0x3C5_000313_000300_001F52,
  0x3C5_000314_000300_001F53, 0x3C5_000313_000301_001F54, 0x3C5_000314_000301_001F55,
  0x3C5_000313_000342_001F56, 0x3C5_000314_000342_001F57, 0x3A5_000314_001F59,
  0x3A5_000314_000300_001F5B, 0x3A5_000314_000301_001F5D, 0x3A5_000314_000342_001F5F,
  0x3C9_000313_001F60, 0x3C9_000314_001F61, 0x3C9_000313_000300_001F62,
  0x3C9_000314_000300_001F63, 0x3C9_000313_000301_001F64, 0x3C9_000314_000301_001F65,
  0x3C9_000313_000342_001F66, 0x3C9_000314_000342_001F67, 0x3A9_000313_001F68,
  0x3A9_000314_001F69, 0x3A9_000313_000300_001F6A, 0x3A9_000314_000300_001F6B,
  0x3A9_000313_000301_001F6C, 0x3A9_000314_000301_001F6D, 0x3A9_000313_000342_001F6E,
  0x3A9_000314_000342_001F6F, 0x3B1_000300_001F70, 0x3B1_000301_001F71, 0x3B5_000300_001F72,
  0x3B5_000301_001F73, 0x3B7_000300_001F74, 0x3B7_000301_001F75, 0x3B9_000300_001F76,
  0x3B9_000301_001F77, 0x3BF_000300_001F78, 0x3BF_000301_001F79, 0x3C5_000300_001F7A,
  0x3C5_000301_001F7B, 0x3C9_000300_001F7C, 0x3C9_000301_001F7D, 0x3B1_000313_000345_001F80,
  0x3B1_000314_000345_001F81, 0x3B1_000313_000300_000345_001F82,
  0x3B1_000314_000300_000345_001F83, 0x3B1_000313_000301_000345_001F84,
  0x3B1_000314_000301_000345_001F85, 0x3B1_000313_000342_000345_001F86,
  0x3B1_000314_000342_000345_001F87, 0x391_000313_000345_001F88, 0x391_000314_000345_001F89,
  0x391_000313_000300_000345_001F8A, 0x391_000314_000300_000345_001F8B,
  0x391_000313_000301_000345_001F8C, 0x391_000314_000301_000345_001F8D,
  0x391_000313_000342_000345_001F8E, 0x391_000314_000342_000345_001F8F,
  0x3B7_000313_000345_001F90, 0x3B7_000314_000345_001F91, 0x3B7_000313_000300_000345_001F92,
  0x3B7_000314_000300_000345_001F93, 0x3B7_000313_000301_000345_001F94,
  0x3B7_000314_000301_000345_001F95, 0x3B7_000313_000342_000345_001F96,
  0x3B7_000314_000342_000345_001F97, 0x397_000313_000345_001F98, 0x397_000314_000345_001F99,
  0x397_000313_000300_000345_001F9A, 0x397_000314_000300_000345_001F9B,
  0x397_000313_000301_000345_001F9C, 0x397_000314_000301_000345_001F9D,
  0x397_000313_000342_000345_001F9E, 0x397_000314_000342_000345_001F9F,
  0x3C9_000313_000345_001FA0, 0x3C9_000314_000345_001FA1, 0x3C9_000313_000300_000345_001FA2,
  0x3C9_000314_000300_000345_001FA3, 0x3C9_000313_000301_000345_001FA4,
  0x3C9_000314_000301_000345_001FA5, 0x3C9_000313_000342_000345_001FA6,
  0x3C9_000314_000342_000345_001FA7, 0x3A9_000313_000345_001FA8, 0x3A9_000314_000345_001FA9,
  0x3A9_000313_000300_000345_001FAA, 0x3A9_000314_000300_000345_001FAB,
  0x3A9_000313_000301_000345_001FAC, 0x3A9_000314_000301_000345_001FAD,
  0x3A9_000313_000342_000345_001FAE, 0x3A9_000314_000342_000345_001FAF, 0x3B1_000306_001FB0,
  0x3B1_000304_001FB1, 0x3B1_000300_000345_001FB2, 0x3B1_000345_001FB3,
  0x3B1_000301_000345_001FB4, 0x3B1_000342_001FB6, 0x3B1_000342_000345_001FB7,
  0x391_000306_001FB8, 0x391_000304_001FB9, 0x391_000300_001FBA, 0x391_000301_001FBB,
  0x391_000345_001FBC, 0x3B9_001FBE, 0xA8_000342_001FC1, 0x3B7_000300_000345_001FC2,
  0x3B7_000345_001FC3, 0x3B7_000301_000345_001FC4, 0x3B7_000342_001FC6,
  0x3B7_000342_000345_001FC7, 0x395_000300_001FC8, 0x395_000301_001FC9, 0x397_000300_001FCA,
  0x397_000301_001FCB, 0x397_000345_001FCC, 0x1FBF_000300_001FCD, 0x1FBF_000301_001FCE,
  0x1FBF_000342_001FCF, 0x3B9_000306_001FD0, 0x3B9_000304_001FD1, 0x3B9_000308_000300_001FD2,
  0x3B9_000308_000301_001FD3, 0x3B9_000342_001FD6, 0x3B9_000308_000342_001FD7,
  0x399_000306_001FD8, 0x399_000304_001FD9, 0x399_000300_001FDA, 0x399_000301_001FDB,
  0x1FFE_000300_001FDD, 0x1FFE_000301_001FDE, 0x1FFE_000342_001FDF, 0x3C5_000306_001FE0,
  0x3C5_000304_001FE1, 0x3C5_000308_000300_001FE2, 0x3C5_000308_000301_001FE3,
  0x3C1_000313_001FE4, 0x3C1_000314_001FE5, 0x3C5_000342_001FE6, 0x3C5_000308_000342_001FE7,
  0x3A5_000306_001FE8, 0x3A5_000304_001FE9, 0x3A5_000300_001FEA, 0x3A5_000301_001FEB,
  0x3A1_000314_001FEC, 0xA8_000300_001FED, 0xA8_000301_001FEE, 0x60_001FEF,
  0x3C9_000300_000345_001FF2, 0x3C9_000345_001FF3, 0x3C9_000301_000345_001FF4,
  0x3C9_000342_001FF6, 0x3C9_000342_000345_001FF7, 0x39F_000300_001FF8, 0x39F_000301_001FF9,
  0x3A9_000300_001FFA, 0x3A9_000301_001FFB, 0x3A9_000345_001FFC, 0xB4_001FFD, 0x2002_002000,
  0x2003_002001, 0x3A9_002126, 0x4B_00212A, 0x41_00030A_00212B, 0x2190_000338_00219A,
  0x2192_000338_00219B, 0x2194_000338_0021AE, 0x21D0_000338_0021CD, 0x21D4_000338_0021CE,
  0x21D2_000338_0021CF, 0x2203_000338_002204, 0x2208_000338_002209, 0x220B_000338_00220C,
  0x2223_000338_002224, 0x2225_000338_002226, 0x223C_000338_002241, 0x2243_000338_002244,
  0x2245_000338_002247, 0x2248_000338_002249, 0x3D_000338_002260, 0x2261_000338_002262,
  0x224D_000338_00226D, 0x3C_000338_00226E, 0x3E_000338_00226F, 0x2264_000338_002270,
  0x2265_000338_002271, 0x2272_000338_002274, 0x2273_000338_002275, 0x2276_000338_002278,
  0x2277_000338_002279, 0x227A_000338_002280, 0x227B_000338_002281, 0x2282_000338_002284,
  0x2283_000338_002285, 0x2286_000338_002288, 0x2287_000338_002289, 0x22A2_000338_0022AC,
  0x22A8_000338_0022AD, 0x22A9_000338_0022AE, 0x22AB_000338_0022AF, 0x227C_000338_0022E0,
  0x227D_000338_0022E1, 0x2291_000338_0022E2, 0x2292_000338_0022E3, 0x22B2_000338_0022EA,
  0x22B3_000338_0022EB, 0x22B4_000338_0022EC, 0x22B5_000338_0022ED, 0x3008_002329, 0x3009_00232A,
  0x2ADD_000338_002ADC, 0x304B_003099_00304C, 0x304D_003099_00304E, 0x304F_003099_003050,
  0x3051_003099_003052, 0x3053_003099_003054, 0x3055_003099_003056, 0x3057_003099_003058,
  0x3059_003099_00305A, 0x305B_003099_00305C, 0x305D_003099_00305E, 0x305F_003099_003060,
  0x3061_003099_003062, 0x3064_003099_003065, 0x3066_003099_003067, 0x3068_003099_003069,
  0x306F_003099_003070, 0x306F_00309A_003071, 0x3072_003099_003073, 0x3072_00309A_003074,
  0x3075_003099_003076, 0x3075_00309A_003077, 0x3078_003099_003079, 0x3078_00309A_00307A,
  0x307B_003099_00307C, 0x307B_00309A_00307D, 0x3046_003099_003094, 0x309D_003099_00309E,
  0x30AB_003099_0030AC, 0x30AD_003099_0030AE, 0x30AF_003099_0030B0, 0x30B1_003099_0030B2,
  0x30B3_003099_0030B4, 0x30B5_003099_0030B6, 0x30B7_003099_0030B8, 0x30B9_003099_0030BA,
  0x30BB_003099_0030BC, 0x30BD_003099_0030BE, 0x30BF_003099_0030C0, 0x30C1_003099_0030C2,
  0x30C4_003099_0030C5, 0x30C6_003099_0030C7, 0x30C8_003099_0030C9, 0x30CF_003099_0030D0,
  0x30CF_00309A_0030D1, 0x30D2_003099_0030D3, 0x30D2_00309A_0030D4, 0x30D5_003099_0030D6,
  0x30D5_00309A_0030D7, 0x30D8_003099_0030D9, 0x30D8_00309A_0030DA, 0x30DB_003099_0030DC,
  0x30DB_00309A_0030DD, 0x30A6_003099_0030F4, 0x30EF_003099_0030F7, 0x30F0_003099_0030F8,
  0x30F1_003099_0030F9, 0x30F2_003099_0030FA, 0x30FD_003099_0030FE, 0x8C48_00F900, 0x66F4_00F901,
  0x8ECA_00F902, 0x8CC8_00F903, 0x6ED1_00F904, 0x4E32_00F905, 0x53E5_00F906, 0x9F9C_00F907,
  0x9F9C_00F908, 0x5951_00F909, 0x91D1_00F90A, 0x5587_00F90B, 0x5948_00F90C, 0x61F6_00F90D,
  0x7669_00F90E, 0x7F85_00F90F, 0x863F_00F910, 0x87BA_00F911, 0x88F8_00F912, 0x908F_00F913,
  0x6A02_00F914, 0x6D1B_00F915, 0x70D9_00F916, 0x73DE_00F917, 0x843D_00F918, 0x916A_00F919,
  0x99F1_00F91A, 0x4E82_00F91B, 0x5375_00F91C, 0x6B04_00F91D, 0x721B_00F91E, 0x862D_00F91F,
  0x9E1E_00F920, 0x5D50_00F921, 0x6FEB_00F922, 0x85CD_00F923, 0x8964_00F924, 0x62C9_00F925,
  0x81D8_00F926, 0x881F_00F927, 0x5ECA_00F928, 0x6717_00F929, 0x6D6A_00F92A, 0x72FC_00F92B,
  0x90CE_00F92C, 0x4F86_00F92D, 0x51B7_00F92E, 0x52DE_00F92F, 0x64C4_00F930, 0x6AD3_00F931,
  0x7210_00F932, 0x76E7_00F933, 0x8001_00F934, 0x8606_00F935, 0x865C_00F936, 0x8DEF_00F937,
  0x9732_00F938, 0x9B6F_00F939, 0x9DFA_00F93A, 0x788C_00F93B, 0x797F_00F93C, 0x7DA0_00F93D,
  0x83C9_00F93E, 0x9304_00F93F, 0x9E7F_00F940, 0x8AD6_00F941, 0x58DF_00F942, 0x5F04_00F943,
  0x7C60_00F944, 0x807E_00F945, 0x7262_00F946, 0x78CA_00F947, 0x8CC2_00F948, 0x96F7_00F949,
  0x58D8_00F94A, 0x5C62_00F94B, 0x6A13_00F94C, 0x6DDA_00F94D, 0x6F0F_00F94E, 0x7D2F_00F94F,
  0x7E37_00F950, 0x964B_00F951, 0x52D2_00F952, 0x808B_00F953, 0x51DC_00F954, 0x51CC_00F955,
  0x7A1C_00F956, 0x7DBE_00F957, 0x83F1_00F958, 0x9675_00F959, 0x8B80_00F95A, 0x62CF_00F95B,
  0x6A02_00F95C, 0x8AFE_00F95D, 0x4E39_00F95E, 0x5BE7_00F95F, 0x6012_00F960, 0x7387_00F961,
  0x7570_00F962, 0x5317_00F963, 0x78FB_00F964, 0x4FBF_00F965, 0x5FA9_00F966, 0x4E0D_00F967,
  0x6CCC_00F968, 0x6578_00F969, 0x7D22_00F96A, 0x53C3_00F96B, 0x585E_00F96C, 0x7701_00F96D,
  0x8449_00F96E, 0x8AAA_00F96F, 0x6BBA_00F970, 0x8FB0_00F971, 0x6C88_00F972, 0x62FE_00F973,
  0x82E5_00F974, 0x63A0_00F975, 0x7565_00F976, 0x4EAE_00F977, 0x5169_00F978, 0x51C9_00F979,
  0x6881_00F97A, 0x7CE7_00F97B, 0x826F_00F97C, 0x8AD2_00F97D, 0x91CF_00F97E, 0x52F5_00F97F,
  0x5442_00F980, 0x5973_00F981, 0x5EEC_00F982, 0x65C5_00F983, 0x6FFE_00F984, 0x792A_00F985,
  0x95AD_00F986, 0x9A6A_00F987, 0x9E97_00F988, 0x9ECE_00F989, 0x529B_00F98A, 0x66C6_00F98B,
  0x6B77_00F98C, 0x8F62_00F98D, 0x5E74_00F98E, 0x6190_00F98F, 0x6200_00F990, 0x649A_00F991,
  0x6F23_00F992, 0x7149_00F993, 0x7489_00F994, 0x79CA_00F995, 0x7DF4_00F996, 0x806F_00F997,
  0x8F26_00F998, 0x84EE_00F999, 0x9023_00F99A, 0x934A_00F99B, 0x5217_00F99C, 0x52A3_00F99D,
  0x54BD_00F99E, 0x70C8_00F99F, 0x88C2_00F9A0, 0x8AAA_00F9A1, 0x5EC9_00F9A2, 0x5FF5_00F9A3,
  0x637B_00F9A4, 0x6BAE_00F9A5, 0x7C3E_00F9A6, 0x7375_00F9A7, 0x4EE4_00F9A8, 0x56F9_00F9A9,
  0x5BE7_00F9AA, 0x5DBA_00F9AB, 0x601C_00F9AC, 0x73B2_00F9AD, 0x7469_00F9AE, 0x7F9A_00F9AF,
  0x8046_00F9B0, 0x9234_00F9B1, 0x96F6_00F9B2, 0x9748_00F9B3, 0x9818_00F9B4, 0x4F8B_00F9B5,
  0x79AE_00F9B6, 0x91B4_00F9B7, 0x96B8_00F9B8, 0x60E1_00F9B9, 0x4E86_00F9BA, 0x50DA_00F9BB,
  0x5BEE_00F9BC, 0x5C3F_00F9BD, 0x6599_00F9BE, 0x6A02_00F9BF, 0x71CE_00F9C0, 0x7642_00F9C1,
  0x84FC_00F9C2, 0x907C_00F9C3, 0x9F8D_00F9C4, 0x6688_00F9C5, 0x962E_00F9C6, 0x5289_00F9C7,
  0x677B_00F9C8, 0x67F3_00F9C9, 0x6D41_00F9CA, 0x6E9C_00F9CB, 0x7409_00F9CC, 0x7559_00F9CD,
  0x786B_00F9CE, 0x7D10_00F9CF, 0x985E_00F9D0, 0x516D_00F9D1, 0x622E_00F9D2, 0x9678_00F9D3,
  0x502B_00F9D4, 0x5D19_00F9D5, 0x6DEA_00F9D6, 0x8F2A_00F9D7, 0x5F8B_00F9D8, 0x6144_00F9D9,
  0x6817_00F9DA, 0x7387_00F9DB, 0x9686_00F9DC, 0x5229_00F9DD, 0x540F_00F9DE, 0x5C65_00F9DF,
  0x6613_00F9E0, 0x674E_00F9E1, 0x68A8_00F9E2, 0x6CE5_00F9E3, 0x7406_00F9E4, 0x75E2_00F9E5,
  0x7F79_00F9E6, 0x88CF_00F9E7, 0x88E1_00F9E8, 0x91CC_00F9E9, 0x96E2_00F9EA, 0x533F_00F9EB,
  0x6EBA_00F9EC, 0x541D_00F9ED, 0x71D0_00F9EE, 0x7498_00F9EF, 0x85FA_00F9F0, 0x96A3_00F9F1,
  0x9C57_00F9F2, 0x9E9F_00F9F3, 0x6797_00F9F4, 0x6DCB_00F9F5, 0x81E8_00F9F6, 0x7ACB_00F9F7,
  0x7B20_00F9F8, 0x7C92_00F9F9, 0x72C0_00F9FA, 0x7099_00F9FB, 0x8B58_00F9FC, 0x4EC0_00F9FD,
  0x8336_00F9FE, 0x523A_00F9FF, 0x5207_00FA00, 0x5EA6_00FA01, 0x62D3_00FA02, 0x7CD6_00FA03,
  0x5B85_00FA04, 0x6D1E_00FA05, 0x66B4_00FA06, 0x8F3B_00FA07, 0x884C_00FA08, 0x964D_00FA09,
  0x898B_00FA0A, 0x5ED3_00FA0B, 0x5140_00FA0C, 0x55C0_00FA0D, 0x585A_00FA10, 0x6674_00FA12,
  0x51DE_00FA15, 0x732A_00FA16, 0x76CA_00FA17, 0x793C_00FA18, 0x795E_00FA19, 0x7965_00FA1A,
  0x798F_00FA1B, 0x9756_00FA1C, 0x7CBE_00FA1D, 0x7FBD_00FA1E, 0x8612_00FA20, 0x8AF8_00FA22,
  0x9038_00FA25, 0x90FD_00FA26, 0x98EF_00FA2A, 0x98FC_00FA2B, 0x9928_00FA2C, 0x9DB4_00FA2D,
  0x90DE_00FA2E, 0x96B7_00FA2F, 0x4FAE_00FA30, 0x50E7_00FA31, 0x514D_00FA32, 0x52C9_00FA33,
  0x52E4_00FA34, 0x5351_00FA35, 0x559D_00FA36, 0x5606_00FA37, 0x5668_00FA38, 0x5840_00FA39,
  0x58A8_00FA3A, 0x5C64_00FA3B, 0x5C6E_00FA3C, 0x6094_00FA3D, 0x6168_00FA3E, 0x618E_00FA3F,
  0x61F2_00FA40, 0x654F_00FA41, 0x65E2_00FA42, 0x6691_00FA43, 0x6885_00FA44, 0x6D77_00FA45,
  0x6E1A_00FA46, 0x6F22_00FA47, 0x716E_00FA48, 0x722B_00FA49, 0x7422_00FA4A, 0x7891_00FA4B,
  0x793E_00FA4C, 0x7949_00FA4D, 0x7948_00FA4E, 0x7950_00FA4F, 0x7956_00FA50, 0x795D_00FA51,
  0x798D_00FA52, 0x798E_00FA53, 0x7A40_00FA54, 0x7A81_00FA55, 0x7BC0_00FA56, 0x7DF4_00FA57,
  0x7E09_00FA58, 0x7E41_00FA59, 0x7F72_00FA5A, 0x8005_00FA5B, 0x81ED_00FA5C, 0x8279_00FA5D,
  0x8279_00FA5E, 0x8457_00FA5F, 0x8910_00FA60, 0x8996_00FA61, 0x8B01_00FA62, 0x8B39_00FA63,
  0x8CD3_00FA64, 0x8D08_00FA65, 0x8FB6_00FA66, 0x9038_00FA67, 0x96E3_00FA68, 0x97FF_00FA69,
  0x983B_00FA6A, 0x6075_00FA6B, 0x242EE_00FA6C, 0x8218_00FA6D, 0x4E26_00FA70, 0x51B5_00FA71,
  0x5168_00FA72, 0x4F80_00FA73, 0x5145_00FA74, 0x5180_00FA75, 0x52C7_00FA76, 0x52FA_00FA77,
  0x559D_00FA78, 0x5555_00FA79, 0x5599_00FA7A, 0x55E2_00FA7B, 0x585A_00FA7C, 0x58B3_00FA7D,
  0x5944_00FA7E, 0x5954_00FA7F, 0x5A62_00FA80, 0x5B28_00FA81, 0x5ED2_00FA82, 0x5ED9_00FA83,
  0x5F69_00FA84, 0x5FAD_00FA85, 0x60D8_00FA86, 0x614E_00FA87, 0x6108_00FA88, 0x618E_00FA89,
  0x6160_00FA8A, 0x61F2_00FA8B, 0x6234_00FA8C, 0x63C4_00FA8D, 0x641C_00FA8E, 0x6452_00FA8F,
  0x6556_00FA90, 0x6674_00FA91, 0x6717_00FA92, 0x671B_00FA93, 0x6756_00FA94, 0x6B79_00FA95,
  0x6BBA_00FA96, 0x6D41_00FA97, 0x6EDB_00FA98, 0x6ECB_00FA99, 0x6F22_00FA9A, 0x701E_00FA9B,
  0x716E_00FA9C, 0x77A7_00FA9D, 0x7235_00FA9E, 0x72AF_00FA9F, 0x732A_00FAA0, 0x7471_00FAA1,
  0x7506_00FAA2, 0x753B_00FAA3, 0x761D_00FAA4, 0x761F_00FAA5, 0x76CA_00FAA6, 0x76DB_00FAA7,
  0x76F4_00FAA8, 0x774A_00FAA9, 0x7740_00FAAA, 0x78CC_00FAAB, 0x7AB1_00FAAC, 0x7BC0_00FAAD,
  0x7C7B_00FAAE, 0x7D5B_00FAAF, 0x7DF4_00FAB0, 0x7F3E_00FAB1, 0x8005_00FAB2, 0x8352_00FAB3,
  0x83EF_00FAB4, 0x8779_00FAB5, 0x8941_00FAB6, 0x8986_00FAB7, 0x8996_00FAB8, 0x8ABF_00FAB9,
  0x8AF8_00FABA, 0x8ACB_00FABB, 0x8B01_00FABC, 0x8AFE_00FABD, 0x8AED_00FABE, 0x8B39_00FABF,
  0x8B8A_00FAC0, 0x8D08_00FAC1, 0x8F38_00FAC2, 0x9072_00FAC3, 0x9199_00FAC4, 0x9276_00FAC5,
  0x967C_00FAC6, 0x96E3_00FAC7, 0x9756_00FAC8, 0x97DB_00FAC9, 0x97FF_00FACA, 0x980B_00FACB,
  0x983B_00FACC, 0x9B12_00FACD, 0x9F9C_00FACE, 0x2284A_00FACF, 0x22844_00FAD0, 0x233D5_00FAD1,
  0x3B9D_00FAD2, 0x4018_00FAD3, 0x4039_00FAD4, 0x25249_00FAD5, 0x25CD0_00FAD6, 0x27ED3_00FAD7,
  0x9F43_00FAD8, 0x9F8E_00FAD9, 0x5D9_0005B4_00FB1D, 0x5F2_0005B7_00FB1F, 0x5E9_0005C1_00FB2A,
  0x5E9_0005C2_00FB2B, 0x5E9_0005BC_0005C1_00FB2C, 0x5E9_0005BC_0005C2_00FB2D,
  0x5D0_0005B7_00FB2E, 0x5D0_0005B8_00FB2F, 0x5D0_0005BC_00FB30, 0x5D1_0005BC_00FB31,
  0x5D2_0005BC_00FB32, 0x5D3_0005BC_00FB33, 0x5D4_0005BC_00FB34, 0x5D5_0005BC_00FB35,
  0x5D6_0005BC_00FB36, 0x5D8_0005BC_00FB38, 0x5D9_0005BC_00FB39, 0x5DA_0005BC_00FB3A,
  0x5DB_0005BC_00FB3B, 0x5DC_0005BC_00FB3C, 0x5DE_0005BC_00FB3E, 0x5E0_0005BC_00FB40,
  0x5E1_0005BC_00FB41, 0x5E3_0005BC_00FB43, 0x5E4_0005BC_00FB44, 0x5E6_0005BC_00FB46,
  0x5E7_0005BC_00FB47, 0x5E8_0005BC_00FB48, 0x5E9_0005BC_00FB49, 0x5EA_0005BC_00FB4A,
  0x5D5_0005B9_00FB4B, 0x5D1_0005BF_00FB4C, 0x5DB_0005BF_00FB4D, 0x5E4_0005BF_00FB4E,
  0x105D2_000307_0105C9, 0x105DA_000307_0105E4, 0x11099_0110BA_01109A, 0x1109B_0110BA_01109C,
  0x110A5_0110BA_0110AB, 0x11131_011127_01112E, 0x11132_011127_01112F, 0x11347_01133E_01134B,
  0x11347_011357_01134C, 0x11382_0113C9_011383, 0x11384_0113BB_011385, 0x1138B_0113C2_01138E,
  0x11390_0113C9_011391, 0x113C2_0113C2_0113C5, 0x113C2_0113B8_0113C7, 0x113C2_0113C9_0113C8,
  0x114B9_0114BA_0114BB, 0x114B9_0114B0_0114BC, 0x114B9_0114BD_0114BE, 0x115B8_0115AF_0115BA,
  0x115B9_0115AF_0115BB, 0x11935_011930_011938, 0x1611E_01611E_016121, 0x1611E_016129_016122,
  0x1611E_01611F_016123, 0x16129_01611F_016124, 0x1611E_016120_016125,
  0x1611E_01611E_01611F_016126, 0x1611E_016129_01611F_016127, 0x1611E_01611E_016120_016128,
  0x16D67_016D67_016D68, 0x16D63_016D67_016D69, 0x16D63_016D67_016D67_016D6A,
  0x1D157_01D165_01D15E, 0x1D158_01D165_01D15F, 0x1D158_01D165_01D16E_01D160,
  0x1D158_01D165_01D16F_01D161, 0x1D158_01D165_01D170_01D162, 0x1D158_01D165_01D171_01D163,
  0x1D158_01D165_01D172_01D164, 0x1D1B9_01D165_01D1BB, 0x1D1BA_01D165_01D1BC,
  0x1D1B9_01D165_01D16E_01D1BD, 0x1D1BA_01D165_01D16E_01D1BE, 0x1D1B9_01D165_01D16F_01D1BF,
  0x1D1BA_01D165_01D16F_01D1C0, 0x4E3D_02F800, 0x4E38_02F801, 0x4E41_02F802, 0x20122_02F803,
  0x4F60_02F804, 0x4FAE_02F805, 0x4FBB_02F806, 0x5002_02F807, 0x507A_02F808, 0x5099_02F809,
  0x50E7_02F80A, 0x50CF_02F80B, 0x349E_02F80C, 0x2063A_02F80D, 0x514D_02F80E, 0x5154_02F80F,
  0x5164_02F810, 0x5177_02F811, 0x2051C_02F812, 0x34B9_02F813, 0x5167_02F814, 0x518D_02F815,
  0x2054B_02F816, 0x5197_02F817, 0x51A4_02F818, 0x4ECC_02F819, 0x51AC_02F81A, 0x51B5_02F81B,
  0x291DF_02F81C, 0x51F5_02F81D, 0x5203_02F81E, 0x34DF_02F81F, 0x523B_02F820, 0x5246_02F821,
  0x5272_02F822, 0x5277_02F823, 0x3515_02F824, 0x52C7_02F825, 0x52C9_02F826, 0x52E4_02F827,
  0x52FA_02F828, 0x5305_02F829, 0x5306_02F82A, 0x5317_02F82B, 0x5349_02F82C, 0x5351_02F82D,
  0x535A_02F82E, 0x5373_02F82F, 0x537D_02F830, 0x537F_02F831, 0x537F_02F832, 0x537F_02F833,
  0x20A2C_02F834, 0x7070_02F835, 0x53CA_02F836, 0x53DF_02F837, 0x20B63_02F838, 0x53EB_02F839,
  0x53F1_02F83A, 0x5406_02F83B, 0x549E_02F83C, 0x5438_02F83D, 0x5448_02F83E, 0x5468_02F83F,
  0x54A2_02F840, 0x54F6_02F841, 0x5510_02F842, 0x5553_02F843, 0x5563_02F844, 0x5584_02F845,
  0x5584_02F846, 0x5599_02F847, 0x55AB_02F848, 0x55B3_02F849, 0x55C2_02F84A, 0x5716_02F84B,
  0x5606_02F84C, 0x5717_02F84D, 0x5651_02F84E, 0x5674_02F84F, 0x5207_02F850, 0x58EE_02F851,
  0x57CE_02F852, 0x57F4_02F853, 0x580D_02F854, 0x578B_02F855, 0x5832_02F856, 0x5831_02F857,
  0x58AC_02F858, 0x214E4_02F859, 0x58F2_02F85A, 0x58F7_02F85B, 0x5906_02F85C, 0x591A_02F85D,
  0x5922_02F85E, 0x5962_02F85F, 0x216A8_02F860, 0x216EA_02F861, 0x59EC_02F862, 0x5A1B_02F863,
  0x5A27_02F864, 0x59D8_02F865, 0x5A66_02F866, 0x36EE_02F867, 0x36FC_02F868, 0x5B08_02F869,
  0x5B3E_02F86A, 0x5B3E_02F86B, 0x219C8_02F86C, 0x5BC3_02F86D, 0x5BD8_02F86E, 0x5BE7_02F86F,
  0x5BF3_02F870, 0x21B18_02F871, 0x5BFF_02F872, 0x5C06_02F873, 0x5F53_02F874, 0x5C22_02F875,
  0x3781_02F876, 0x5C60_02F877, 0x5C6E_02F878, 0x5CC0_02F879, 0x5C8D_02F87A, 0x21DE4_02F87B,
  0x5D43_02F87C, 0x21DE6_02F87D, 0x5D6E_02F87E, 0x5D6B_02F87F, 0x5D7C_02F880, 0x5DE1_02F881,
  0x5DE2_02F882, 0x382F_02F883, 0x5DFD_02F884, 0x5E28_02F885, 0x5E3D_02F886, 0x5E69_02F887,
  0x3862_02F888, 0x22183_02F889, 0x387C_02F88A, 0x5EB0_02F88B, 0x5EB3_02F88C, 0x5EB6_02F88D,
  0x5ECA_02F88E, 0x2A392_02F88F, 0x5EFE_02F890, 0x22331_02F891, 0x22331_02F892, 0x8201_02F893,
  0x5F22_02F894, 0x5F22_02F895, 0x38C7_02F896, 0x232B8_02F897, 0x261DA_02F898, 0x5F62_02F899,
  0x5F6B_02F89A, 0x38E3_02F89B, 0x5F9A_02F89C, 0x5FCD_02F89D, 0x5FD7_02F89E, 0x5FF9_02F89F,
  0x6081_02F8A0, 0x393A_02F8A1, 0x391C_02F8A2, 0x6094_02F8A3, 0x226D4_02F8A4, 0x60C7_02F8A5,
  0x6148_02F8A6, 0x614C_02F8A7, 0x614E_02F8A8, 0x614C_02F8A9, 0x617A_02F8AA, 0x618E_02F8AB,
  0x61B2_02F8AC, 0x61A4_02F8AD, 0x61AF_02F8AE, 0x61DE_02F8AF, 0x61F2_02F8B0, 0x61F6_02F8B1,
  0x6210_02F8B2, 0x621B_02F8B3, 0x625D_02F8B4, 0x62B1_02F8B5, 0x62D4_02F8B6, 0x6350_02F8B7,
  0x22B0C_02F8B8, 0x633D_02F8B9, 0x62FC_02F8BA, 0x6368_02F8BB, 0x6383_02F8BC, 0x63E4_02F8BD,
  0x22BF1_02F8BE, 0x6422_02F8BF, 0x63C5_02F8C0, 0x63A9_02F8C1, 0x3A2E_02F8C2, 0x6469_02F8C3,
  0x647E_02F8C4, 0x649D_02F8C5, 0x6477_02F8C6, 0x3A6C_02F8C7, 0x654F_02F8C8, 0x656C_02F8C9,
  0x2300A_02F8CA, 0x65E3_02F8CB, 0x66F8_02F8CC, 0x6649_02F8CD, 0x3B19_02F8CE, 0x6691_02F8CF,
  0x3B08_02F8D0, 0x3AE4_02F8D1, 0x5192_02F8D2, 0x5195_02F8D3, 0x6700_02F8D4, 0x669C_02F8D5,
  0x80AD_02F8D6, 0x43D9_02F8D7, 0x6717_02F8D8, 0x671B_02F8D9, 0x6721_02F8DA, 0x675E_02F8DB,
  0x6753_02F8DC, 0x233C3_02F8DD, 0x3B49_02F8DE, 0x67FA_02F8DF, 0x6785_02F8E0, 0x6852_02F8E1,
  0x6885_02F8E2, 0x2346D_02F8E3, 0x688E_02F8E4, 0x681F_02F8E5, 0x6914_02F8E6, 0x3B9D_02F8E7,
  0x6942_02F8E8, 0x69A3_02F8E9, 0x69EA_02F8EA, 0x6AA8_02F8EB, 0x236A3_02F8EC, 0x6ADB_02F8ED,
  0x3C18_02F8EE, 0x6B21_02F8EF, 0x238A7_02F8F0, 0x6B54_02F8F1, 0x3C4E_02F8F2, 0x6B72_02F8F3,
  0x6B9F_02F8F4, 0x6BBA_02F8F5, 0x6BBB_02F8F6, 0x23A8D_02F8F7, 0x21D0B_02F8F8, 0x23AFA_02F8F9,
  0x6C4E_02F8FA, 0x23CBC_02F8FB, 0x6CBF_02F8FC, 0x6CCD_02F8FD, 0x6C67_02F8FE, 0x6D16_02F8FF,
  0x6D3E_02F900, 0x6D77_02F901, 0x6D41_02F902, 0x6D69_02F903, 0x6D78_02F904, 0x6D85_02F905,
  0x23D1E_02F906, 0x6D34_02F907, 0x6E2F_02F908, 0x6E6E_02F909, 0x3D33_02F90A, 0x6ECB_02F90B,
  0x6EC7_02F90C, 0x23ED1_02F90D, 0x6DF9_02F90E, 0x6F6E_02F90F, 0x23F5E_02F910, 0x23F8E_02F911,
  0x6FC6_02F912, 0x7039_02F913, 0x701E_02F914, 0x701B_02F915, 0x3D96_02F916, 0x704A_02F917,
  0x707D_02F918, 0x7077_02F919, 0x70AD_02F91A, 0x20525_02F91B, 0x7145_02F91C, 0x24263_02F91D,
  0x719C_02F91E, 0x243AB_02F91F, 0x7228_02F920, 0x7235_02F921, 0x7250_02F922, 0x24608_02F923,
  0x7280_02F924, 0x7295_02F925, 0x24735_02F926, 0x24814_02F927, 0x737A_02F928, 0x738B_02F929,
  0x3EAC_02F92A, 0x73A5_02F92B, 0x3EB8_02F92C, 0x3EB8_02F92D, 0x7447_02F92E, 0x745C_02F92F,
  0x7471_02F930, 0x7485_02F931, 0x74CA_02F932, 0x3F1B_02F933, 0x7524_02F934, 0x24C36_02F935,
  0x753E_02F936, 0x24C92_02F937, 0x7570_02F938, 0x2219F_02F939, 0x7610_02F93A, 0x24FA1_02F93B,
  0x24FB8_02F93C, 0x25044_02F93D, 0x3FFC_02F93E, 0x4008_02F93F, 0x76F4_02F940, 0x250F3_02F941,
  0x250F2_02F942, 0x25119_02F943, 0x25133_02F944, 0x771E_02F945, 0x771F_02F946, 0x771F_02F947,
  0x774A_02F948, 0x4039_02F949, 0x778B_02F94A, 0x4046_02F94B, 0x4096_02F94C, 0x2541D_02F94D,
  0x784E_02F94E, 0x788C_02F94F, 0x78CC_02F950, 0x40E3_02F951, 0x25626_02F952, 0x7956_02F953,
  0x2569A_02F954, 0x256C5_02F955, 0x798F_02F956, 0x79EB_02F957, 0x412F_02F958, 0x7A40_02F959,
  0x7A4A_02F95A, 0x7A4F_02F95B, 0x2597C_02F95C, 0x25AA7_02F95D, 0x25AA7_02F95E, 0x7AEE_02F95F,
  0x4202_02F960, 0x25BAB_02F961, 0x7BC6_02F962, 0x7BC9_02F963, 0x4227_02F964, 0x25C80_02F965,
  0x7CD2_02F966, 0x42A0_02F967, 0x7CE8_02F968, 0x7CE3_02F969, 0x7D00_02F96A, 0x25F86_02F96B,
  0x7D63_02F96C, 0x4301_02F96D, 0x7DC7_02F96E, 0x7E02_02F96F, 0x7E45_02F970, 0x4334_02F971,
  0x26228_02F972, 0x26247_02F973, 0x4359_02F974, 0x262D9_02F975, 0x7F7A_02F976, 0x2633E_02F977,
  0x7F95_02F978, 0x7FFA_02F979, 0x8005_02F97A, 0x264DA_02F97B, 0x26523_02F97C, 0x8060_02F97D,
  0x265A8_02F97E, 0x8070_02F97F, 0x2335F_02F980, 0x43D5_02F981, 0x80B2_02F982, 0x8103_02F983,
  0x440B_02F984, 0x813E_02F985, 0x5AB5_02F986, 0x267A7_02F987, 0x267B5_02F988, 0x23393_02F989,
  0x2339C_02F98A, 0x8201_02F98B, 0x8204_02F98C, 0x8F9E_02F98D, 0x446B_02F98E, 0x8291_02F98F,
  0x828B_02F990, 0x829D_02F991, 0x52B3_02F992, 0x82B1_02F993, 0x82B3_02F994, 0x82BD_02F995,
  0x82E6_02F996, 0x26B3C_02F997, 0x82E5_02F998, 0x831D_02F999, 0x8363_02F99A, 0x83AD_02F99B,
  0x8323_02F99C, 0x83BD_02F99D, 0x83E7_02F99E, 0x8457_02F99F, 0x8353_02F9A0, 0x83CA_02F9A1,
  0x83CC_02F9A2, 0x83DC_02F9A3, 0x26C36_02F9A4, 0x26D6B_02F9A5, 0x26CD5_02F9A6, 0x452B_02F9A7,
  0x84F1_02F9A8, 0x84F3_02F9A9, 0x8516_02F9AA, 0x273CA_02F9AB, 0x8564_02F9AC, 0x26F2C_02F9AD,
  0x455D_02F9AE, 0x4561_02F9AF, 0x26FB1_02F9B0, 0x270D2_02F9B1, 0x456B_02F9B2, 0x8650_02F9B3,
  0x865C_02F9B4, 0x8667_02F9B5, 0x8669_02F9B6, 0x86A9_02F9B7, 0x8688_02F9B8, 0x870E_02F9B9,
  0x86E2_02F9BA, 0x8779_02F9BB, 0x8728_02F9BC, 0x876B_02F9BD, 0x8786_02F9BE, 0x45D7_02F9BF,
  0x87E1_02F9C0, 0x8801_02F9C1, 0x45F9_02F9C2, 0x8860_02F9C3, 0x8863_02F9C4, 0x27667_02F9C5,
  0x88D7_02F9C6, 0x88DE_02F9C7, 0x4635_02F9C8, 0x88FA_02F9C9, 0x34BB_02F9CA, 0x278AE_02F9CB,
  0x27966_02F9CC, 0x46BE_02F9CD, 0x46C7_02F9CE, 0x8AA0_02F9CF, 0x8AED_02F9D0, 0x8B8A_02F9D1,
  0x8C55_02F9D2, 0x27CA8_02F9D3, 0x8CAB_02F9D4, 0x8CC1_02F9D5, 0x8D1B_02F9D6, 0x8D77_02F9D7,
  0x27F2F_02F9D8, 0x20804_02F9D9, 0x8DCB_02F9DA, 0x8DBC_02F9DB, 0x8DF0_02F9DC, 0x208DE_02F9DD,
  0x8ED4_02F9DE, 0x8F38_02F9DF, 0x285D2_02F9E0, 0x285ED_02F9E1, 0x9094_02F9E2, 0x90F1_02F9E3,
  0x9111_02F9E4, 0x2872E_02F9E5, 0x911B_02F9E6, 0x9238_02F9E7, 0x92D7_02F9E8, 0x92D8_02F9E9,
  0x927C_02F9EA, 0x93F9_02F9EB, 0x9415_02F9EC, 0x28BFA_02F9ED, 0x958B_02F9EE, 0x4995_02F9EF,
  0x95B7_02F9F0, 0x28D77_02F9F1, 0x49E6_02F9F2, 0x96C3_02F9F3, 0x5DB2_02F9F4, 0x9723_02F9F5,
  0x29145_02F9F6, 0x2921A_02F9F7, 0x4A6E_02F9F8, 0x4A76_02F9F9, 0x97E0_02F9FA, 0x2940A_02F9FB,
  0x4AB2_02F9FC, 0x29496_02F9FD, 0x980B_02F9FE, 0x980B_02F9FF, 0x9829_02FA00, 0x295B6_02FA01,
  0x98E2_02FA02, 0x4B33_02FA03, 0x9929_02FA04, 0x99A7_02FA05, 0x99C2_02FA06, 0x99FE_02FA07,
  0x4BCE_02FA08, 0x29B30_02FA09, 0x9B12_02FA0A, 0x9C40_02FA0B, 0x9CFD_02FA0C, 0x4CCE_02FA0D,
  0x4CED_02FA0E, 0x9D67_02FA0F, 0x2A0CE_02FA10, 0x4CF8_02FA11, 0x2A105_02FA12, 0x2A20E_02FA13,
  0x2A291_02FA14, 0x9EBB_02FA15, 0x4D56_02FA16, 0x9EF9_02FA17, 0x9EFE_02FA18, 0x9F05_02FA19,
  0x9F0F_02FA1A, 0x9F16_02FA1B, 0x9F3B_02FA1C, 0x2A600_02FA1D]

/-- The code points written in `n`, six hexadecimal digits each, put in front of `rest`. -/
def unpack : Nat → Nat → List Char → List Char
  | 0, _, rest => rest
  | fuel + 1, n, rest =>
    if n = 0 then rest else unpack fuel (n / 0x1000000) (Char.ofNat (n % 0x1000000) :: rest)

/-- A Hangul syllable is a leading consonant, a vowel and perhaps a trailing consonant. -/
def syllable (index : Nat) : List Char :=
  let trail := index % 28
  [Char.ofNat (0x1100 + index / 588), Char.ofNat (0x1161 + index % 588 / 28)] ++
    if trail = 0 then [] else [Char.ofNat (0x11A7 + trail)]

def decompose (c : Char) : List Char :=
  let n := c.toNat
  if n < 0xC0 then [c]
  else if 0xAC00 ≤ n ∧ n < 0xD7A4 then syllable (n - 0xAC00)
  else
    match floorEntry? decompositions (· % 0x1000000) n with
    | some entry =>
      if entry % 0x1000000 = n then unpack 4 (entry / 0x1000000) [] else [c]
    | none => [c]

end PivotTable.Unicode
