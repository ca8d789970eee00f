/-! Combining classes, and the characters that stand for others, in Unicode 15. -/
namespace DesignLint.Composition

/-! Marks of different classes stand at different places around their base, so that their order does not matter; a
character of class zero is a base. -/

/-- The characters from `first` to `last`, all of one class. -/
structure ClassRun where
  first : Nat
  last : Nat
  markClass : Nat

private def classRunsA : List ClassRun := [
  ⟨768, 788, 230⟩, ⟨789, 789, 232⟩, ⟨790, 793, 220⟩, ⟨794, 794, 232⟩, ⟨795, 795, 216⟩, ⟨796, 800, 220⟩,
  ⟨801, 802, 202⟩, ⟨803, 806, 220⟩, ⟨807, 808, 202⟩, ⟨809, 819, 220⟩, ⟨820, 824, 1⟩, ⟨825, 828, 220⟩,
  ⟨829, 836, 230⟩, ⟨837, 837, 240⟩, ⟨838, 838, 230⟩, ⟨839, 841, 220⟩, ⟨842, 844, 230⟩, ⟨845, 846, 220⟩,
  ⟨848, 850, 230⟩, ⟨851, 854, 220⟩, ⟨855, 855, 230⟩, ⟨856, 856, 232⟩, ⟨857, 858, 220⟩, ⟨859, 859, 230⟩,
  ⟨860, 860, 233⟩, ⟨861, 862, 234⟩, ⟨863, 863, 233⟩, ⟨864, 865, 234⟩, ⟨866, 866, 233⟩, ⟨867, 879, 230⟩,
  ⟨1155, 1159, 230⟩, ⟨1425, 1425, 220⟩, ⟨1426, 1429, 230⟩, ⟨1430, 1430, 220⟩, ⟨1431, 1433, 230⟩,
  ⟨1434, 1434, 222⟩, ⟨1435, 1435, 220⟩, ⟨1436, 1441, 230⟩, ⟨1442, 1447, 220⟩, ⟨1448, 1449, 230⟩,
  ⟨1450, 1450, 220⟩, ⟨1451, 1452, 230⟩, ⟨1453, 1453, 222⟩, ⟨1454, 1454, 228⟩, ⟨1455, 1455, 230⟩,
  ⟨1456, 1456, 10⟩, ⟨1457, 1457, 11⟩, ⟨1458, 1458, 12⟩, ⟨1459, 1459, 13⟩, ⟨1460, 1460, 14⟩,
  ⟨1461, 1461, 15⟩, ⟨1462, 1462, 16⟩, ⟨1463, 1463, 17⟩, ⟨1464, 1464, 18⟩, ⟨1465, 1466, 19⟩,
  ⟨1467, 1467, 20⟩, ⟨1468, 1468, 21⟩, ⟨1469, 1469, 22⟩, ⟨1471, 1471, 23⟩, ⟨1473, 1473, 24⟩,
  ⟨1474, 1474, 25⟩, ⟨1476, 1476, 230⟩, ⟨1477, 1477, 220⟩, ⟨1479, 1479, 18⟩, ⟨1552, 1559, 230⟩,
  ⟨1560, 1560, 30⟩, ⟨1561, 1561, 31⟩, ⟨1562, 1562, 32⟩, ⟨1611, 1611, 27⟩, ⟨1612, 1612, 28⟩,
  ⟨1613, 1613, 29⟩, ⟨1614, 1614, 30⟩, ⟨1615, 1615, 31⟩, ⟨1616, 1616, 32⟩, ⟨1617, 1617, 33⟩,
  ⟨1618, 1618, 34⟩, ⟨1619, 1620, 230⟩, ⟨1621, 1622, 220⟩, ⟨1623, 1627, 230⟩, ⟨1628, 1628, 220⟩,
  ⟨1629, 1630, 230⟩, ⟨1631, 1631, 220⟩, ⟨1648, 1648, 35⟩, ⟨1750, 1756, 230⟩, ⟨1759, 1762, 230⟩,
  ⟨1763, 1763, 220⟩, ⟨1764, 1764, 230⟩, ⟨1767, 1768, 230⟩, ⟨1770, 1770, 220⟩, ⟨1771, 1772, 230⟩,
  ⟨1773, 1773, 220⟩, ⟨1809, 1809, 36⟩, ⟨1840, 1840, 230⟩, ⟨1841, 1841, 220⟩, ⟨1842, 1843, 230⟩,
  ⟨1844, 1844, 220⟩, ⟨1845, 1846, 230⟩, ⟨1847, 1849, 220⟩, ⟨1850, 1850, 230⟩, ⟨1851, 1852, 220⟩,
  ⟨1853, 1853, 230⟩, ⟨1854, 1854, 220⟩, ⟨1855, 1857, 230⟩, ⟨1858, 1858, 220⟩, ⟨1859, 1859, 230⟩,
  ⟨1860, 1860, 220⟩, ⟨1861, 1861, 230⟩, ⟨1862, 1862, 220⟩, ⟨1863, 1863, 230⟩, ⟨1864, 1864, 220⟩,
  ⟨1865, 1866, 230⟩, ⟨2027, 2033, 230⟩, ⟨2034, 2034, 220⟩, ⟨2035, 2035, 230⟩, ⟨2045, 2045, 220⟩,
  ⟨2070, 2073, 230⟩, ⟨2075, 2083, 230⟩, ⟨2085, 2087, 230⟩, ⟨2089, 2093, 230⟩, ⟨2137, 2139, 220⟩,
  ⟨2200, 2200, 230⟩, ⟨2201, 2203, 220⟩, ⟨2204, 2207, 230⟩, ⟨2250, 2254, 230⟩, ⟨2255, 2259, 220⟩,
  ⟨2260, 2273, 230⟩, ⟨2275, 2275, 220⟩, ⟨2276, 2277, 230⟩, ⟨2278, 2278, 220⟩, ⟨2279, 2280, 230⟩]

private def classRunsB : List ClassRun := [
  ⟨2281, 2281, 220⟩, ⟨2282, 2284, 230⟩, ⟨2285, 2287, 220⟩, ⟨2288, 2288, 27⟩, ⟨2289, 2289, 28⟩,
  ⟨2290, 2290, 29⟩, ⟨2291, 2293, 230⟩, ⟨2294, 2294, 220⟩, ⟨2295, 2296, 230⟩, ⟨2297, 2298, 220⟩,
  ⟨2299, 2303, 230⟩, ⟨2364, 2364, 7⟩, ⟨2381, 2381, 9⟩, ⟨2385, 2385, 230⟩, ⟨2386, 2386, 220⟩,
  ⟨2387, 2388, 230⟩, ⟨2492, 2492, 7⟩, ⟨2509, 2509, 9⟩, ⟨2558, 2558, 230⟩, ⟨2620, 2620, 7⟩, ⟨2637, 2637, 9⟩,
  ⟨2748, 2748, 7⟩, ⟨2765, 2765, 9⟩, ⟨2876, 2876, 7⟩, ⟨2893, 2893, 9⟩, ⟨3021, 3021, 9⟩, ⟨3132, 3132, 7⟩,
  ⟨3149, 3149, 9⟩, ⟨3157, 3157, 84⟩, ⟨3158, 3158, 91⟩, ⟨3260, 3260, 7⟩, ⟨3277, 3277, 9⟩, ⟨3387, 3388, 9⟩,
  ⟨3405, 3405, 9⟩, ⟨3530, 3530, 9⟩, ⟨3640, 3641, 103⟩, ⟨3642, 3642, 9⟩, ⟨3656, 3659, 107⟩,
  ⟨3768, 3769, 118⟩, ⟨3770, 3770, 9⟩, ⟨3784, 3787, 122⟩, ⟨3864, 3865, 220⟩, ⟨3893, 3893, 220⟩,
  ⟨3895, 3895, 220⟩, ⟨3897, 3897, 216⟩, ⟨3953, 3953, 129⟩, ⟨3954, 3954, 130⟩, ⟨3956, 3956, 132⟩,
  ⟨3962, 3965, 130⟩, ⟨3968, 3968, 130⟩, ⟨3970, 3971, 230⟩, ⟨3972, 3972, 9⟩, ⟨3974, 3975, 230⟩,
  ⟨4038, 4038, 220⟩, ⟨4151, 4151, 7⟩, ⟨4153, 4154, 9⟩, ⟨4237, 4237, 220⟩, ⟨4957, 4959, 230⟩,
  ⟨5908, 5909, 9⟩, ⟨5940, 5940, 9⟩, ⟨6098, 6098, 9⟩, ⟨6109, 6109, 230⟩, ⟨6313, 6313, 228⟩,
  ⟨6457, 6457, 222⟩, ⟨6458, 6458, 230⟩, ⟨6459, 6459, 220⟩, ⟨6679, 6679, 230⟩, ⟨6680, 6680, 220⟩,
  ⟨6752, 6752, 9⟩, ⟨6773, 6780, 230⟩, ⟨6783, 6783, 220⟩, ⟨6832, 6836, 230⟩, ⟨6837, 6842, 220⟩,
  ⟨6843, 6844, 230⟩, ⟨6845, 6845, 220⟩, ⟨6847, 6848, 220⟩, ⟨6849, 6850, 230⟩, ⟨6851, 6852, 220⟩,
  ⟨6853, 6857, 230⟩, ⟨6858, 6858, 220⟩, ⟨6859, 6862, 230⟩, ⟨6964, 6964, 7⟩, ⟨6980, 6980, 9⟩,
  ⟨7019, 7019, 230⟩, ⟨7020, 7020, 220⟩, ⟨7021, 7027, 230⟩, ⟨7082, 7083, 9⟩, ⟨7142, 7142, 7⟩,
  ⟨7154, 7155, 9⟩, ⟨7223, 7223, 7⟩, ⟨7376, 7378, 230⟩, ⟨7380, 7380, 1⟩, ⟨7381, 7385, 220⟩,
  ⟨7386, 7387, 230⟩, ⟨7388, 7391, 220⟩, ⟨7392, 7392, 230⟩, ⟨7394, 7400, 1⟩, ⟨7405, 7405, 220⟩,
  ⟨7412, 7412, 230⟩, ⟨7416, 7417, 230⟩, ⟨7616, 7617, 230⟩, ⟨7618, 7618, 220⟩, ⟨7619, 7625, 230⟩,
  ⟨7626, 7626, 220⟩, ⟨7627, 7628, 230⟩, ⟨7629, 7629, 234⟩, ⟨7630, 7630, 214⟩, ⟨7631, 7631, 220⟩,
  ⟨7632, 7632, 202⟩, ⟨7633, 7669, 230⟩, ⟨7670, 7670, 232⟩, ⟨7671, 7672, 228⟩, ⟨7673, 7673, 220⟩,
  ⟨7674, 7674, 218⟩, ⟨7675, 7675, 230⟩, ⟨7676, 7676, 233⟩, ⟨7677, 7677, 220⟩, ⟨7678, 7678, 230⟩,
  ⟨7679, 7679, 220⟩, ⟨8400, 8401, 230⟩, ⟨8402, 8403, 1⟩, ⟨8404, 8407, 230⟩, ⟨8408, 8410, 1⟩,
  ⟨8411, 8412, 230⟩, ⟨8417, 8417, 230⟩, ⟨8421, 8422, 1⟩, ⟨8423, 8423, 230⟩, ⟨8424, 8424, 220⟩,
  ⟨8425, 8425, 230⟩, ⟨8426, 8427, 1⟩]

private def classRunsC : List ClassRun := [
  ⟨8428, 8431, 220⟩, ⟨8432, 8432, 230⟩, ⟨11503, 11505, 230⟩, ⟨11647, 11647, 9⟩, ⟨11744, 11775, 230⟩,
  ⟨12330, 12330, 218⟩, ⟨12331, 12331, 228⟩, ⟨12332, 12332, 232⟩, ⟨12333, 12333, 222⟩, ⟨12334, 12335, 224⟩,
  ⟨12441, 12442, 8⟩, ⟨42607, 42607, 230⟩, ⟨42612, 42621, 230⟩, ⟨42654, 42655, 230⟩, ⟨42736, 42737, 230⟩,
  ⟨43014, 43014, 9⟩, ⟨43052, 43052, 9⟩, ⟨43204, 43204, 9⟩, ⟨43232, 43249, 230⟩, ⟨43307, 43309, 220⟩,
  ⟨43347, 43347, 9⟩, ⟨43443, 43443, 7⟩, ⟨43456, 43456, 9⟩, ⟨43696, 43696, 230⟩, ⟨43698, 43699, 230⟩,
  ⟨43700, 43700, 220⟩, ⟨43703, 43704, 230⟩, ⟨43710, 43711, 230⟩, ⟨43713, 43713, 230⟩, ⟨43766, 43766, 9⟩,
  ⟨44013, 44013, 9⟩, ⟨64286, 64286, 26⟩, ⟨65056, 65062, 230⟩, ⟨65063, 65069, 220⟩, ⟨65070, 65071, 230⟩,
  ⟨66045, 66045, 220⟩, ⟨66272, 66272, 220⟩, ⟨66422, 66426, 230⟩, ⟨68109, 68109, 220⟩, ⟨68111, 68111, 230⟩,
  ⟨68152, 68152, 230⟩, ⟨68153, 68153, 1⟩, ⟨68154, 68154, 220⟩, ⟨68159, 68159, 9⟩, ⟨68325, 68325, 230⟩,
  ⟨68326, 68326, 220⟩, ⟨68900, 68903, 230⟩, ⟨69291, 69292, 230⟩, ⟨69373, 69375, 220⟩, ⟨69446, 69447, 220⟩,
  ⟨69448, 69450, 230⟩, ⟨69451, 69451, 220⟩, ⟨69452, 69452, 230⟩, ⟨69453, 69456, 220⟩, ⟨69506, 69506, 230⟩,
  ⟨69507, 69507, 220⟩, ⟨69508, 69508, 230⟩, ⟨69509, 69509, 220⟩, ⟨69702, 69702, 9⟩, ⟨69744, 69744, 9⟩,
  ⟨69759, 69759, 9⟩, ⟨69817, 69817, 9⟩, ⟨69818, 69818, 7⟩, ⟨69888, 69890, 230⟩, ⟨69939, 69940, 9⟩,
  ⟨70003, 70003, 7⟩, ⟨70080, 70080, 9⟩, ⟨70090, 70090, 7⟩, ⟨70197, 70197, 9⟩, ⟨70198, 70198, 7⟩,
  ⟨70377, 70377, 7⟩, ⟨70378, 70378, 9⟩, ⟨70459, 70460, 7⟩, ⟨70477, 70477, 9⟩, ⟨70502, 70508, 230⟩,
  ⟨70512, 70516, 230⟩, ⟨70722, 70722, 9⟩, ⟨70726, 70726, 7⟩, ⟨70750, 70750, 230⟩, ⟨70850, 70850, 9⟩,
  ⟨70851, 70851, 7⟩, ⟨71103, 71103, 9⟩, ⟨71104, 71104, 7⟩, ⟨71231, 71231, 9⟩, ⟨71350, 71350, 9⟩,
  ⟨71351, 71351, 7⟩, ⟨71467, 71467, 9⟩, ⟨71737, 71737, 9⟩, ⟨71738, 71738, 7⟩, ⟨71997, 71998, 9⟩,
  ⟨72003, 72003, 7⟩, ⟨72160, 72160, 9⟩, ⟨72244, 72244, 9⟩, ⟨72263, 72263, 9⟩, ⟨72345, 72345, 9⟩,
  ⟨72767, 72767, 9⟩, ⟨73026, 73026, 7⟩, ⟨73028, 73029, 9⟩, ⟨73111, 73111, 9⟩, ⟨73537, 73538, 9⟩,
  ⟨92912, 92916, 1⟩, ⟨92976, 92982, 230⟩, ⟨94192, 94193, 6⟩, ⟨113822, 113822, 1⟩, ⟨119141, 119142, 216⟩,
  ⟨119143, 119145, 1⟩, ⟨119149, 119149, 226⟩, ⟨119150, 119154, 216⟩, ⟨119163, 119170, 220⟩,
  ⟨119173, 119177, 230⟩, ⟨119178, 119179, 220⟩, ⟨119210, 119213, 230⟩, ⟨119362, 119364, 230⟩,
  ⟨122880, 122886, 230⟩, ⟨122888, 122904, 230⟩, ⟨122907, 122913, 230⟩, ⟨122915, 122916, 230⟩,
  ⟨122918, 122922, 230⟩, ⟨123023, 123023, 230⟩, ⟨123184, 123190, 230⟩, ⟨123566, 123566, 230⟩,
  ⟨123628, 123631, 230⟩, ⟨124140, 124141, 232⟩, ⟨124142, 124142, 220⟩, ⟨124143, 124143, 230⟩,
  ⟨125136, 125142, 220⟩, ⟨125252, 125257, 230⟩, ⟨125258, 125258, 7⟩]

/-- The marks by their classes. -/
def classRuns : List ClassRun := classRunsA ++ classRunsB ++ classRunsC

/-! Characters that stand for two others, a base and a mark or a second base. Syllables of Hangul are left out, since
their parts follow from their number. -/

/-- Characters with consecutive numbers from `first` on, each with the two that it stands for. -/
structure PairRun where
  first : Nat
  parts : List (Nat × Nat)

private def pairRunsA : List PairRun := [
  ⟨192, [(65, 768), (65, 769), (65, 770), (65, 771), (65, 776), (65, 778)]⟩,
  ⟨199, [(67, 807), (69, 768), (69, 769), (69, 770), (69, 776), (73, 768), (73, 769), (73, 770), (73, 776)]⟩,
  ⟨209, [(78, 771), (79, 768), (79, 769), (79, 770), (79, 771), (79, 776)]⟩,
  ⟨217, [(85, 768), (85, 769), (85, 770), (85, 776), (89, 769)]⟩,
  ⟨224, [(97, 768), (97, 769), (97, 770), (97, 771), (97, 776), (97, 778)]⟩,
  ⟨231, [(99, 807), (101, 768), (101, 769), (101, 770), (101, 776), (105, 768), (105, 769), (105, 770),
    (105, 776)]⟩,
  ⟨241, [(110, 771), (111, 768), (111, 769), (111, 770), (111, 771), (111, 776)]⟩,
  ⟨249, [(117, 768), (117, 769), (117, 770), (117, 776), (121, 769)]⟩,
  ⟨255, [(121, 776), (65, 772), (97, 772), (65, 774), (97, 774), (65, 808), (97, 808), (67, 769), (99, 769),
    (67, 770), (99, 770), (67, 775), (99, 775), (67, 780), (99, 780), (68, 780), (100, 780)]⟩,
  ⟨274, [(69, 772), (101, 772), (69, 774), (101, 774), (69, 775), (101, 775), (69, 808), (101, 808),
    (69, 780), (101, 780), (71, 770), (103, 770), (71, 774), (103, 774), (71, 775), (103, 775), (71, 807),
    (103, 807), (72, 770), (104, 770)]⟩,
  ⟨296, [(73, 771), (105, 771), (73, 772), (105, 772), (73, 774), (105, 774), (73, 808), (105, 808),
    (73, 775)]⟩,
  ⟨308, [(74, 770), (106, 770), (75, 807), (107, 807)]⟩,
  ⟨313, [(76, 769), (108, 769), (76, 807), (108, 807), (76, 780), (108, 780)]⟩,
  ⟨323, [(78, 769), (110, 769), (78, 807), (110, 807), (78, 780), (110, 780)]⟩,
  ⟨332, [(79, 772), (111, 772), (79, 774), (111, 774), (79, 779), (111, 779)]⟩]

private def pairRunsB : List PairRun := [
  ⟨340, [(82, 769), (114, 769), (82, 807), (114, 807), (82, 780), (114, 780), (83, 769), (115, 769),
    (83, 770), (115, 770), (83, 807), (115, 807), (83, 780), (115, 780), (84, 807), (116, 807), (84, 780),
    (116, 780)]⟩,
  ⟨360, [(85, 771), (117, 771), (85, 772), (117, 772), (85, 774), (117, 774), (85, 778), (117, 778),
    (85, 779), (117, 779), (85, 808), (117, 808), (87, 770), (119, 770), (89, 770), (121, 770), (89, 776),
    (90, 769), (122, 769), (90, 775), (122, 775), (90, 780), (122, 780)]⟩,
  ⟨416, [(79, 795), (111, 795)]⟩,
  ⟨431, [(85, 795), (117, 795)]⟩,
  ⟨461, [(65, 780), (97, 780), (73, 780), (105, 780), (79, 780), (111, 780), (85, 780), (117, 780),
    (220, 772), (252, 772), (220, 769), (252, 769), (220, 780), (252, 780), (220, 768), (252, 768)]⟩,
  ⟨478, [(196, 772), (228, 772), (550, 772), (551, 772), (198, 772), (230, 772)]⟩,
  ⟨486, [(71, 780), (103, 780), (75, 780), (107, 780), (79, 808), (111, 808), (490, 772), (491, 772),
    (439, 780), (658, 780), (106, 780)]⟩,
  ⟨500, [(71, 769), (103, 769)]⟩,
  ⟨504, [(78, 768), (110, 768), (197, 769), (229, 769), (198, 769), (230, 769), (216, 769), (248, 769),
    (65, 783), (97, 783), (65, 785), (97, 785), (69, 783), (101, 783), (69, 785), (101, 785), (73, 783),
    (105, 783), (73, 785), (105, 785), (79, 783), (111, 783), (79, 785), (111, 785), (82, 783), (114, 783),
    (82, 785), (114, 785), (85, 783), (117, 783), (85, 785), (117, 785), (83, 806), (115, 806), (84, 806),
    (116, 806)]⟩,
  ⟨542, [(72, 780), (104, 780)]⟩,
  ⟨550, [(65, 775), (97, 775), (69, 807), (101, 807), (214, 772), (246, 772), (213, 772), (245, 772),
    (79, 775), (111, 775), (558, 772), (559, 772), (89, 772), (121, 772)]⟩]

private def pairRunsC : List PairRun := [
  ⟨836, [(776, 769)]⟩,
  ⟨901, [(168, 769), (913, 769)]⟩,
  ⟨904, [(917, 769), (919, 769), (921, 769)]⟩,
  ⟨908, [(927, 769)]⟩,
  ⟨910, [(933, 769), (937, 769), (970, 769)]⟩,
  ⟨938, [(921, 776), (933, 776), (945, 769), (949, 769), (951, 769), (953, 769), (971, 769)]⟩,
  ⟨970, [(953, 776), (965, 776), (959, 769), (965, 769), (969, 769)]⟩,
  ⟨979, [(978, 769), (978, 776)]⟩,
  ⟨1024, [(1045, 768), (1045, 776)]⟩,
  ⟨1027, [(1043, 769)]⟩,
  ⟨1031, [(1030, 776)]⟩,
  ⟨1036, [(1050, 769), (1048, 768), (1059, 774)]⟩,
  ⟨1049, [(1048, 774)]⟩,
  ⟨1081, [(1080, 774)]⟩,
  ⟨1104, [(1077, 768), (1077, 776)]⟩,
  ⟨1107, [(1075, 769)]⟩,
  ⟨1111, [(1110, 776)]⟩,
  ⟨1116, [(1082, 769), (1080, 768), (1091, 774)]⟩,
  ⟨1142, [(1140, 783), (1141, 783)]⟩,
  ⟨1217, [(1046, 774), (1078, 774)]⟩,
  ⟨1232, [(1040, 774), (1072, 774), (1040, 776), (1072, 776)]⟩,
  ⟨1238, [(1045, 774), (1077, 774)]⟩,
  ⟨1242, [(1240, 776), (1241, 776), (1046, 776), (1078, 776), (1047, 776), (1079, 776)]⟩,
  ⟨1250, [(1048, 772), (1080, 772), (1048, 776), (1080, 776), (1054, 776), (1086, 776)]⟩,
  ⟨1258, [(1256, 776), (1257, 776), (1069, 776), (1101, 776), (1059, 772), (1091, 772), (1059, 776),
    (1091, 776), (1059, 779), (1091, 779), (1063, 776), (1095, 776)]⟩,
  ⟨1272, [(1067, 776), (1099, 776)]⟩,
  ⟨1570, [(1575, 1619), (1575, 1620), (1608, 1620), (1575, 1621), (1610, 1620)]⟩,
  ⟨1728, [(1749, 1620)]⟩,
  ⟨1730, [(1729, 1620)]⟩,
  ⟨1747, [(1746, 1620)]⟩,
  ⟨2345, [(2344, 2364)]⟩,
  ⟨2353, [(2352, 2364)]⟩,
  ⟨2356, [(2355, 2364)]⟩,
  ⟨2392, [(2325, 2364), (2326, 2364), (2327, 2364), (2332, 2364), (2337, 2364), (2338, 2364), (2347, 2364),
    (2351, 2364)]⟩,
  ⟨2507, [(2503, 2494), (2503, 2519)]⟩,
  ⟨2524, [(2465, 2492), (2466, 2492)]⟩,
  ⟨2527, [(2479, 2492)]⟩,
  ⟨2611, [(2610, 2620)]⟩,
  ⟨2614, [(2616, 2620)]⟩,
  ⟨2649, [(2582, 2620), (2583, 2620), (2588, 2620)]⟩,
  ⟨2654, [(2603, 2620)]⟩,
  ⟨2888, [(2887, 2902)]⟩,
  ⟨2891, [(2887, 2878), (2887, 2903)]⟩,
  ⟨2908, [(2849, 2876), (2850, 2876)]⟩,
  ⟨2964, [(2962, 3031)]⟩,
  ⟨3018, [(3014, 3006), (3015, 3006), (3014, 3031)]⟩,
  ⟨3144, [(3142, 3158)]⟩,
  ⟨3264, [(3263, 3285)]⟩,
  ⟨3271, [(3270, 3285), (3270, 3286)]⟩,
  ⟨3274, [(3270, 3266), (3274, 3285)]⟩]

private def pairRunsD : List PairRun := [
  ⟨3402, [(3398, 3390), (3399, 3390), (3398, 3415)]⟩,
  ⟨3546, [(3545, 3530)]⟩,
  ⟨3548, [(3545, 3535), (3548, 3530), (3545, 3551)]⟩,
  ⟨3907, [(3906, 4023)]⟩,
  ⟨3917, [(3916, 4023)]⟩,
  ⟨3922, [(3921, 4023)]⟩,
  ⟨3927, [(3926, 4023)]⟩,
  ⟨3932, [(3931, 4023)]⟩,
  ⟨3945, [(3904, 4021)]⟩,
  ⟨3955, [(3953, 3954)]⟩,
  ⟨3957, [(3953, 3956), (4018, 3968)]⟩,
  ⟨3960, [(4019, 3968)]⟩,
  ⟨3969, [(3953, 3968)]⟩,
  ⟨3987, [(3986, 4023)]⟩,
  ⟨3997, [(3996, 4023)]⟩,
  ⟨4002, [(4001, 4023)]⟩,
  ⟨4007, [(4006, 4023)]⟩,
  ⟨4012, [(4011, 4023)]⟩,
  ⟨4025, [(3984, 4021)]⟩,
  ⟨4134, [(4133, 4142)]⟩,
  ⟨6918, [(6917, 6965)]⟩,
  ⟨6920, [(6919, 6965)]⟩,
  ⟨6922, [(6921, 6965)]⟩,
  ⟨6924, [(6923, 6965)]⟩,
  ⟨6926, [(6925, 6965)]⟩,
  ⟨6930, [(6929, 6965)]⟩,
  ⟨6971, [(6970, 6965)]⟩,
  ⟨6973, [(6972, 6965)]⟩,
  ⟨6976, [(6974, 6965), (6975, 6965)]⟩,
  ⟨6979, [(6978, 6965)]⟩,
  ⟨7680, [(65, 805), (97, 805), (66, 775), (98, 775), (66, 803), (98, 803), (66, 817), (98, 817), (199, 769),
    (231, 769), (68, 775), (100, 775), (68, 803), (100, 803), (68, 817), (100, 817), (68, 807), (100, 807),
    (68, 813), (100, 813), (274, 768), (275, 768), (274, 769), (275, 769), (69, 813), (101, 813), (69, 816),
    (101, 816), (552, 774), (553, 774), (70, 775), (102, 775), (71, 772), (103, 772), (72, 775), (104, 775),
    (72, 803), (104, 803), (72, 776), (104, 776), (72, 807), (104, 807), (72, 814), (104, 814), (73, 816),
    (105, 816), (207, 769), (239, 769), (75, 769), (107, 769), (75, 803), (107, 803), (75, 817), (107, 817),
    (76, 803), (108, 803), (7734, 772), (7735, 772), (76, 817), (108, 817), (76, 813), (108, 813), (77, 769),
    (109, 769), (77, 775), (109, 775), (77, 803), (109, 803), (78, 775), (110, 775), (78, 803), (110, 803),
    (78, 817), (110, 817), (78, 813), (110, 813), (213, 769), (245, 769), (213, 776), (245, 776), (332, 768),
    (333, 768), (332, 769), (333, 769), (80, 769), (112, 769), (80, 775), (112, 775), (82, 775), (114, 775),
    (82, 803), (114, 803), (7770, 772), (7771, 772), (82, 817), (114, 817), (83, 775), (115, 775), (83, 803),
    (115, 803), (346, 775), (347, 775), (352, 775), (353, 775), (7778, 775), (7779, 775), (84, 775),
    (116, 775), (84, 803), (116, 803), (84, 817), (116, 817), (84, 813), (116, 813), (85, 804), (117, 804),
    (85, 816), (117, 816), (85, 813), (117, 813)]⟩]

private def pairRunsE : List PairRun := [
  ⟨7800, [(360, 769), (361, 769), (362, 776), (363, 776), (86, 771), (118, 771), (86, 803), (118, 803),
    (87, 768), (119, 768), (87, 769), (119, 769), (87, 776), (119, 776), (87, 775), (119, 775), (87, 803),
    (119, 803), (88, 775), (120, 775), (88, 776), (120, 776), (89, 775), (121, 775), (90, 770), (122, 770),
    (90, 803), (122, 803), (90, 817), (122, 817), (104, 817), (116, 776), (119, 778), (121, 778)]⟩,
  ⟨7835, [(383, 775)]⟩,
  ⟨7840, [(65, 803), (97, 803), (65, 777), (97, 777), (194, 769), (226, 769), (194, 768), (226, 768),
    (194, 777), (226, 777), (194, 771), (226, 771), (7840, 770), (7841, 770), (258, 769), (259, 769),
    (258, 768), (259, 768), (258, 777), (259, 777), (258, 771), (259, 771), (7840, 774), (7841, 774),
    (69, 803), (101, 803), (69, 777), (101, 777), (69, 771), (101, 771), (202, 769), (234, 769), (202, 768),
    (234, 768), (202, 777), (234, 777), (202, 771), (234, 771), (7864, 770), (7865, 770), (73, 777),
    (105, 777), (73, 803), (105, 803), (79, 803), (111, 803), (79, 777), (111, 777), (212, 769), (244, 769),
    (212, 768), (244, 768), (212, 777), (244, 777), (212, 771), (244, 771), (7884, 770), (7885, 770),
    (416, 769), (417, 769), (416, 768), (417, 768), (416, 777), (417, 777), (416, 771), (417, 771),
    (416, 803), (417, 803), (85, 803), (117, 803), (85, 777), (117, 777), (431, 769), (432, 769), (431, 768),
    (432, 768), (431, 777), (432, 777), (431, 771), (432, 771), (431, 803), (432, 803), (89, 768), (121, 768),
    (89, 803), (121, 803), (89, 777), (121, 777), (89, 771), (121, 771)]⟩]

private def pairRunsF : List PairRun := [
  ⟨7936, [(945, 787), (945, 788), (7936, 768), (7937, 768), (7936, 769), (7937, 769), (7936, 834),
    (7937, 834), (913, 787), (913, 788), (7944, 768), (7945, 768), (7944, 769), (7945, 769), (7944, 834),
    (7945, 834), (949, 787), (949, 788), (7952, 768), (7953, 768), (7952, 769), (7953, 769)]⟩,
  ⟨7960, [(917, 787), (917, 788), (7960, 768), (7961, 768), (7960, 769), (7961, 769)]⟩,
  ⟨7968, [(951, 787), (951, 788), (7968, 768), (7969, 768), (7968, 769), (7969, 769), (7968, 834),
    (7969, 834), (919, 787), (919, 788), (7976, 768), (7977, 768), (7976, 769), (7977, 769), (7976, 834),
    (7977, 834), (953, 787), (953, 788), (7984, 768), (7985, 768), (7984, 769), (7985, 769), (7984, 834),
    (7985, 834), (921, 787), (921, 788), (7992, 768), (7993, 768), (7992, 769), (7993, 769), (7992, 834),
    (7993, 834), (959, 787), (959, 788), (8000, 768), (8001, 768), (8000, 769), (8001, 769)]⟩,
  ⟨8008, [(927, 787), (927, 788), (8008, 768), (8009, 768), (8008, 769), (8009, 769)]⟩,
  ⟨8016, [(965, 787), (965, 788), (8016, 768), (8017, 768), (8016, 769), (8017, 769), (8016, 834),
    (8017, 834)]⟩,
  ⟨8025, [(933, 788)]⟩,
  ⟨8027, [(8025, 768)]⟩,
  ⟨8029, [(8025, 769)]⟩,
  ⟨8031, [(8025, 834), (969, 787), (969, 788), (8032, 768), (8033, 768), (8032, 769), (8033, 769),
    (8032, 834), (8033, 834), (937, 787), (937, 788), (8040, 768), (8041, 768), (8040, 769), (8041, 769),
    (8040, 834), (8041, 834), (945, 768)]⟩,
  ⟨8050, [(949, 768)]⟩,
  ⟨8052, [(951, 768)]⟩,
  ⟨8054, [(953, 768)]⟩,
  ⟨8056, [(959, 768)]⟩,
  ⟨8058, [(965, 768)]⟩,
  ⟨8060, [(969, 768)]⟩,
  ⟨8064, [(7936, 837), (7937, 837), (7938, 837), (7939, 837), (7940, 837), (7941, 837), (7942, 837),
    (7943, 837), (7944, 837), (7945, 837), (7946, 837), (7947, 837), (7948, 837), (7949, 837), (7950, 837),
    (7951, 837), (7968, 837), (7969, 837), (7970, 837), (7971, 837), (7972, 837), (7973, 837), (7974, 837),
    (7975, 837), (7976, 837), (7977, 837), (7978, 837), (7979, 837), (7980, 837), (7981, 837), (7982, 837),
    (7983, 837), (8032, 837), (8033, 837), (8034, 837), (8035, 837), (8036, 837), (8037, 837), (8038, 837),
    (8039, 837), (8040, 837), (8041, 837), (8042, 837), (8043, 837), (8044, 837), (8045, 837), (8046, 837),
    (8047, 837), (945, 774), (945, 772), (8048, 837), (945, 837), (940, 837)]⟩]

private def pairRunsG : List PairRun := [
  ⟨8118, [(945, 834), (8118, 837), (913, 774), (913, 772), (913, 768)]⟩,
  ⟨8124, [(913, 837)]⟩,
  ⟨8129, [(168, 834), (8052, 837), (951, 837), (942, 837)]⟩,
  ⟨8134, [(951, 834), (8134, 837), (917, 768)]⟩,
  ⟨8138, [(919, 768)]⟩,
  ⟨8140, [(919, 837), (8127, 768), (8127, 769), (8127, 834), (953, 774), (953, 772), (970, 768)]⟩,
  ⟨8150, [(953, 834), (970, 834), (921, 774), (921, 772), (921, 768)]⟩,
  ⟨8157, [(8190, 768), (8190, 769), (8190, 834), (965, 774), (965, 772), (971, 768)]⟩,
  ⟨8164, [(961, 787), (961, 788), (965, 834), (971, 834), (933, 774), (933, 772), (933, 768)]⟩,
  ⟨8172, [(929, 788), (168, 768)]⟩,
  ⟨8178, [(8060, 837), (969, 837), (974, 837)]⟩,
  ⟨8182, [(969, 834), (8182, 837), (927, 768)]⟩,
  ⟨8186, [(937, 768)]⟩,
  ⟨8188, [(937, 837)]⟩,
  ⟨8602, [(8592, 824), (8594, 824)]⟩,
  ⟨8622, [(8596, 824)]⟩,
  ⟨8653, [(8656, 824), (8660, 824), (8658, 824)]⟩,
  ⟨8708, [(8707, 824)]⟩,
  ⟨8713, [(8712, 824)]⟩,
  ⟨8716, [(8715, 824)]⟩,
  ⟨8740, [(8739, 824)]⟩,
  ⟨8742, [(8741, 824)]⟩,
  ⟨8769, [(8764, 824)]⟩,
  ⟨8772, [(8771, 824)]⟩,
  ⟨8775, [(8773, 824)]⟩,
  ⟨8777, [(8776, 824)]⟩,
  ⟨8800, [(61, 824)]⟩,
  ⟨8802, [(8801, 824)]⟩,
  ⟨8813, [(8781, 824), (60, 824), (62, 824), (8804, 824), (8805, 824)]⟩,
  ⟨8820, [(8818, 824), (8819, 824)]⟩,
  ⟨8824, [(8822, 824), (8823, 824)]⟩,
  ⟨8832, [(8826, 824), (8827, 824)]⟩,
  ⟨8836, [(8834, 824), (8835, 824)]⟩,
  ⟨8840, [(8838, 824), (8839, 824)]⟩,
  ⟨8876, [(8866, 824), (8872, 824), (8873, 824), (8875, 824)]⟩,
  ⟨8928, [(8828, 824), (8829, 824), (8849, 824), (8850, 824)]⟩,
  ⟨8938, [(8882, 824), (8883, 824), (8884, 824), (8885, 824)]⟩,
  ⟨10972, [(10973, 824)]⟩,
  ⟨12364, [(12363, 12441)]⟩,
  ⟨12366, [(12365, 12441)]⟩,
  ⟨12368, [(12367, 12441)]⟩,
  ⟨12370, [(12369, 12441)]⟩,
  ⟨12372, [(12371, 12441)]⟩,
  ⟨12374, [(12373, 12441)]⟩,
  ⟨12376, [(12375, 12441)]⟩,
  ⟨12378, [(12377, 12441)]⟩,
  ⟨12380, [(12379, 12441)]⟩,
  ⟨12382, [(12381, 12441)]⟩,
  ⟨12384, [(12383, 12441)]⟩,
  ⟨12386, [(12385, 12441)]⟩,
  ⟨12389, [(12388, 12441)]⟩,
  ⟨12391, [(12390, 12441)]⟩,
  ⟨12393, [(12392, 12441)]⟩,
  ⟨12400, [(12399, 12441), (12399, 12442)]⟩,
  ⟨12403, [(12402, 12441), (12402, 12442)]⟩,
  ⟨12406, [(12405, 12441), (12405, 12442)]⟩,
  ⟨12409, [(12408, 12441), (12408, 12442)]⟩,
  ⟨12412, [(12411, 12441), (12411, 12442)]⟩,
  ⟨12436, [(12358, 12441)]⟩]

private def pairRunsH : List PairRun := [
  ⟨12446, [(12445, 12441)]⟩,
  ⟨12460, [(12459, 12441)]⟩,
  ⟨12462, [(12461, 12441)]⟩,
  ⟨12464, [(12463, 12441)]⟩,
  ⟨12466, [(12465, 12441)]⟩,
  ⟨12468, [(12467, 12441)]⟩,
  ⟨12470, [(12469, 12441)]⟩,
  ⟨12472, [(12471, 12441)]⟩,
  ⟨12474, [(12473, 12441)]⟩,
  ⟨12476, [(12475, 12441)]⟩,
  ⟨12478, [(12477, 12441)]⟩,
  ⟨12480, [(12479, 12441)]⟩,
  ⟨12482, [(12481, 12441)]⟩,
  ⟨12485, [(12484, 12441)]⟩,
  ⟨12487, [(12486, 12441)]⟩,
  ⟨12489, [(12488, 12441)]⟩,
  ⟨12496, [(12495, 12441), (12495, 12442)]⟩,
  ⟨12499, [(12498, 12441), (12498, 12442)]⟩,
  ⟨12502, [(12501, 12441), (12501, 12442)]⟩,
  ⟨12505, [(12504, 12441), (12504, 12442)]⟩,
  ⟨12508, [(12507, 12441), (12507, 12442)]⟩,
  ⟨12532, [(12454, 12441)]⟩,
  ⟨12535, [(12527, 12441), (12528, 12441), (12529, 12441), (12530, 12441)]⟩,
  ⟨12542, [(12541, 12441)]⟩,
  ⟨64285, [(1497, 1460)]⟩,
  ⟨64287, [(1522, 1463)]⟩,
  ⟨64298, [(1513, 1473), (1513, 1474), (64329, 1473), (64329, 1474), (1488, 1463), (1488, 1464), (1488, 1468),
    (1489, 1468), (1490, 1468), (1491, 1468), (1492, 1468), (1493, 1468), (1494, 1468)]⟩,
  ⟨64312, [(1496, 1468), (1497, 1468), (1498, 1468), (1499, 1468), (1500, 1468)]⟩,
  ⟨64318, [(1502, 1468)]⟩,
  ⟨64320, [(1504, 1468), (1505, 1468)]⟩,
  ⟨64323, [(1507, 1468), (1508, 1468)]⟩,
  ⟨64326, [(1510, 1468), (1511, 1468), (1512, 1468), (1513, 1468), (1514, 1468), (1493, 1465), (1489, 1471),
    (1499, 1471), (1508, 1471)]⟩,
  ⟨69786, [(69785, 69818)]⟩,
  ⟨69788, [(69787, 69818)]⟩,
  ⟨69803, [(69797, 69818)]⟩,
  ⟨69934, [(69937, 69927), (69938, 69927)]⟩,
  ⟨70475, [(70471, 70462), (70471, 70487)]⟩,
  ⟨70843, [(70841, 70842), (70841, 70832)]⟩,
  ⟨70846, [(70841, 70845)]⟩,
  ⟨71098, [(71096, 71087), (71097, 71087)]⟩,
  ⟨71992, [(71989, 71984)]⟩,
  ⟨119134, [(119127, 119141), (119128, 119141), (119135, 119150), (119135, 119151), (119135, 119152),
    (119135, 119153), (119135, 119154)]⟩,
  ⟨119227, [(119225, 119141), (119226, 119141), (119227, 119150), (119228, 119150), (119227, 119151),
    (119228, 119151)]⟩]

/-- The characters that stand for two others. -/
def pairRuns : List PairRun :=
  pairRunsA ++ pairRunsB ++ pairRunsC ++ pairRunsD ++ pairRunsE ++ pairRunsF ++ pairRunsG ++
  pairRunsH

/-- Characters that stand for two others but are not made from them again. -/
def unmade : List Nat := [
  836, 2392, 2393, 2394, 2395, 2396, 2397, 2398, 2399, 2524, 2525, 2527, 2611, 2614, 2649, 2650, 2651,
  2654, 2908, 2909, 3907, 3917, 3922, 3927, 3932, 3945, 3955, 3957, 3958, 3960, 3969, 3987, 3997, 4002,
  4007, 4012, 4025, 10972, 64285, 64287, 64298, 64299, 64300, 64301, 64302, 64303, 64304, 64305, 64306,
  64307, 64308, 64309, 64310, 64312, 64313, 64314, 64315, 64316, 64318, 64320, 64321, 64323, 64324, 64326,
  64327, 64328, 64329, 64330, 64331, 64332, 64333, 64334, 119134, 119135, 119136, 119137, 119138, 119139,
  119140, 119227, 119228, 119229, 119230, 119231, 119232]

/-! Characters that are another way to write a single other one. -/

/-- Characters with consecutive numbers from `first` on, each with the one that it stands for. -/
structure SingleRun where
  first : Nat
  targets : List Nat

private def singleRunsA : List SingleRun := [
  ⟨832, [768, 769]⟩,
  ⟨835, [787]⟩,
  ⟨884, [697]⟩,
  ⟨894, [59]⟩,
  ⟨903, [183]⟩,
  ⟨8049, [940]⟩,
  ⟨8051, [941]⟩,
  ⟨8053, [942]⟩,
  ⟨8055, [943]⟩,
  ⟨8057, [972]⟩,
  ⟨8059, [973]⟩,
  ⟨8061, [974]⟩,
  ⟨8123, [902]⟩,
  ⟨8126, [953]⟩,
  ⟨8137, [904]⟩,
  ⟨8139, [905]⟩,
  ⟨8147, [912]⟩,
  ⟨8155, [906]⟩,
  ⟨8163, [944]⟩,
  ⟨8171, [910]⟩,
  ⟨8174, [901, 96]⟩,
  ⟨8185, [908]⟩,
  ⟨8187, [911]⟩,
  ⟨8189, [180]⟩,
  ⟨8192, [8194, 8195]⟩,
  ⟨8486, [937]⟩,
  ⟨8490, [75, 197]⟩,
  ⟨9001, [12296, 12297]⟩,
  ⟨63744, [35912, 26356, 36554, 36040, 28369, 20018, 21477, 40860, 40860, 22865, 37329, 21895, 22856, 25078,
    30313, 32645, 34367, 34746, 35064, 37007, 27138, 27931, 28889, 29662, 33853, 37226, 39409, 20098, 21365,
    27396, 29211, 34349, 40478, 23888, 28651, 34253, 35172, 25289, 33240, 34847, 24266, 26391, 28010, 29436,
    37070, 20358, 20919, 21214, 25796, 27347, 29200, 30439, 32769, 34310, 34396, 36335, 38706, 39791, 40442,
    30860, 31103, 32160, 33737, 37636, 40575, 35542, 22751, 24324, 31840, 32894, 29282, 30922, 36034, 38647,
    22744, 23650, 27155, 28122, 28431, 32047, 32311, 38475, 21202, 32907, 20956, 20940, 31260, 32190, 33777,
    38517, 35712, 25295, 27138, 35582, 20025, 23527, 24594, 29575, 30064, 21271, 30971, 20415, 24489, 19981,
    27852, 25976, 32034, 21443, 22622, 30465, 33865, 35498, 27578, 36784, 27784, 25342, 33509, 25504, 30053,
    20142]⟩,
  ⟨63864, [20841, 20937, 26753, 31975, 33391, 35538, 37327, 21237, 21570, 22899, 24300, 26053, 28670, 31018,
    38317, 39530, 40599, 40654, 21147, 26310, 27511, 36706, 24180, 24976, 25088, 25754, 28451, 29001, 29833,
    31178, 32244, 32879, 36646, 34030, 36899, 37706, 21015, 21155, 21693, 28872, 35010, 35498, 24265, 24565,
    25467, 27566, 31806, 29557, 20196, 22265, 23527, 23994, 24604, 29618, 29801, 32666, 32838, 37428, 38646,
    38728, 38936, 20363, 31150, 37300, 38584, 24801, 20102, 20698, 23534, 23615, 26009, 27138, 29134, 30274,
    34044, 36988, 40845, 26248, 38446, 21129, 26491, 26611, 27969, 28316, 29705, 30041, 30827, 32016, 39006,
    20845, 25134, 38520, 20523, 23833, 28138, 36650, 24459, 24900, 26647, 29575, 38534, 21033, 21519, 23653,
    26131, 26446, 26792, 27877, 29702, 30178, 32633, 35023, 35041, 37324, 38626, 21311, 28346, 21533, 29136,
    29848]⟩]

private def singleRunsB : List SingleRun := [
  ⟨63984, [34298, 38563, 40023, 40607, 26519, 28107, 33256, 31435, 31520, 31890, 29376, 28825, 35672, 20160,
    33590, 21050, 20999, 24230, 25299, 31958, 23429, 27934, 26292, 36667, 34892, 38477, 35211, 24275, 20800,
    21952]⟩,
  ⟨64016, [22618]⟩,
  ⟨64018, [26228]⟩,
  ⟨64021, [20958, 29482, 30410, 31036, 31070, 31077, 31119, 38742, 31934, 32701]⟩,
  ⟨64032, [34322]⟩,
  ⟨64034, [35576]⟩,
  ⟨64037, [36920, 37117]⟩,
  ⟨64042, [39151, 39164, 39208, 40372, 37086, 38583, 20398, 20711, 20813, 21193, 21220, 21329, 21917, 22022,
    22120, 22592, 22696, 23652, 23662, 24724, 24936, 24974, 25074, 25935, 26082, 26257, 26757, 28023, 28186,
    28450, 29038, 29227, 29730, 30865, 31038, 31049, 31048, 31056, 31062, 31069, 31117, 31118, 31296, 31361,
    31680, 32244, 32265, 32321, 32626, 32773, 33261, 33401, 33401, 33879, 35088, 35222, 35585, 35641, 36051,
    36104, 36790, 36920, 38627, 38911, 38971, 24693, 148206, 33304]⟩,
  ⟨64112, [20006, 20917, 20840, 20352, 20805, 20864, 21191, 21242, 21917, 21845, 21913, 21986, 22618, 22707,
    22852, 22868, 23138, 23336, 24274, 24281, 24425, 24493, 24792, 24910, 24840, 24974, 24928, 25074, 25140,
    25540, 25628, 25682, 25942, 26228, 26391, 26395, 26454, 27513, 27578, 27969, 28379, 28363, 28450, 28702,
    29038, 30631, 29237, 29359, 29482, 29809, 29958, 30011, 30237, 30239, 30410, 30427, 30452, 30538, 30528,
    30924, 31409, 31680, 31867, 32091, 32244, 32574, 32773, 33618, 33775, 34681, 35137, 35206, 35222, 35519,
    35576, 35531, 35585, 35582, 35565, 35641, 35722, 36104, 36664, 36978, 37273, 37494, 38524, 38627, 38742,
    38875, 38911, 38923, 38971, 39698, 40860, 141386, 141380, 144341, 15261, 16408, 16441, 152137, 154832,
    163539, 40771, 40846]⟩,
  ⟨194560, [20029, 20024, 20033, 131362, 20320, 20398, 20411, 20482, 20602, 20633, 20711, 20687, 13470,
    132666, 20813, 20820, 20836, 20855, 132380, 13497, 20839, 20877, 132427, 20887, 20900, 20172, 20908,
    20917, 168415, 20981, 20995, 13535, 21051, 21062, 21106, 21111, 13589, 21191, 21193, 21220, 21242, 21253,
    21254, 21271, 21321, 21329, 21338, 21363, 21373, 21375, 21375, 21375, 133676, 28784, 21450, 21471, 133987,
    21483, 21489, 21510, 21662, 21560, 21576, 21608, 21666, 21750, 21776, 21843, 21859, 21892, 21892, 21913,
    21931, 21939, 21954, 22294, 22022, 22295, 22097, 22132, 20999, 22766, 22478, 22516, 22541, 22411, 22578,
    22577, 22700, 136420, 22770, 22775, 22790, 22810, 22818, 22882, 136872, 136938, 23020, 23067, 23079,
    23000, 23142, 14062, 14076, 23304, 23358, 23358, 137672, 23491, 23512, 23527, 23539, 138008, 23551, 23558,
    24403, 23586, 14209, 23648]⟩]

private def singleRunsC : List SingleRun := [
  ⟨194680, [23662, 23744, 23693, 138724, 23875, 138726, 23918, 23915, 23932, 24033, 24034, 14383, 24061,
    24104, 24125, 24169, 14434, 139651, 14460, 24240, 24243, 24246, 24266, 172946, 24318, 140081, 140081,
    33281, 24354, 24354, 14535, 144056, 156122, 24418, 24427, 14563, 24474, 24525, 24535, 24569, 24705, 14650,
    14620, 24724, 141012, 24775, 24904, 24908, 24910, 24908, 24954, 24974, 25010, 24996, 25007, 25054, 25074,
    25078, 25104, 25115, 25181, 25265, 25300, 25424, 142092, 25405, 25340, 25448, 25475, 25572, 142321, 25634,
    25541, 25513, 14894, 25705, 25726, 25757, 25719, 14956, 25935, 25964, 143370, 26083, 26360, 26185, 15129,
    26257, 15112, 15076, 20882, 20885, 26368, 26268, 32941, 17369, 26391, 26395, 26401, 26462, 26451, 144323,
    15177, 26618, 26501, 26706, 26757, 144493, 26766, 26655, 26900, 15261, 26946, 27043, 27114, 27304, 145059,
    27355, 15384, 27425]⟩,
  ⟨194800, [145575, 27476, 15438, 27506, 27551, 27578, 27579, 146061, 138507, 146170, 27726, 146620, 27839,
    27853, 27751, 27926, 27966, 28023, 27969, 28009, 28024, 28037, 146718, 27956, 28207, 28270, 15667, 28363,
    28359, 147153, 28153, 28526, 147294, 147342, 28614, 28729, 28702, 28699, 15766, 28746, 28797, 28791,
    28845, 132389, 28997, 148067, 29084, 148395, 29224, 29237, 29264, 149000, 29312, 29333, 149301, 149524,
    29562, 29579, 16044, 29605, 16056, 16056, 29767, 29788, 29809, 29829, 29898, 16155, 29988, 150582, 30014,
    150674, 30064, 139679, 30224, 151457, 151480, 151620, 16380, 16392, 30452, 151795, 151794, 151833, 151859,
    30494, 30495, 30495, 30538, 16441, 30603, 16454, 16534, 152605, 30798, 30860, 30924, 16611, 153126, 31062,
    153242, 153285, 31119, 31211, 16687, 31296, 31306, 31311, 153980, 154279, 154279, 31470, 16898, 154539,
    31686, 31689, 16935, 154752, 31954, 17056]⟩]

private def singleRunsD : List SingleRun := [
  ⟨194920, [31976, 31971, 32000, 155526, 32099, 17153, 32199, 32258, 32325, 17204, 156200, 156231, 17241,
    156377, 32634, 156478, 32661, 32762, 32773, 156890, 156963, 32864, 157096, 32880, 144223, 17365, 32946,
    33027, 17419, 33086, 23221, 157607, 157621, 144275, 144284, 33281, 33284, 36766, 17515, 33425, 33419,
    33437, 21171, 33457, 33459, 33469, 33510, 158524, 33509, 33565, 33635, 33709, 33571, 33725, 33767, 33879,
    33619, 33738, 33740, 33756, 158774, 159083, 158933, 17707, 34033, 34035, 34070, 160714, 34148, 159532,
    17757, 17761, 159665, 159954, 17771, 34384, 34396, 34407, 34409, 34473, 34440, 34574, 34530, 34681, 34600,
    34667, 34694, 17879, 34785, 34817, 17913, 34912, 34915, 161383, 35031, 35038, 17973, 35066, 13499, 161966,
    162150, 18110, 18119, 35488, 35565, 35722, 35925, 162984, 36011, 36033, 36123, 36215, 163631, 133124,
    36299, 36284, 36336, 133342, 36564, 36664]⟩,
  ⟨195040, [165330, 165357, 37012, 37105, 37137, 165678, 37147, 37432, 37591, 37592, 37500, 37881, 37909,
    166906, 38283, 18837, 38327, 167287, 18918, 38595, 23986, 38691, 168261, 168474, 19054, 19062, 38880,
    168970, 19122, 169110, 38923, 38923, 38953, 169398, 39138, 19251, 39209, 39335, 39362, 39422, 19406,
    170800, 39698, 40000, 40189, 19662, 19693, 40295, 172238, 19704, 172293, 172558, 172689, 40635, 19798,
    40697, 40702, 40709, 40719, 40726, 40763, 173568]⟩]

/-- The characters that stand for a single other one. -/
def singleRuns : List SingleRun :=
  singleRunsA ++ singleRunsB ++ singleRunsC ++ singleRunsD

end DesignLint.Composition
