import LinkWatch.Unicode.CharSet

/-!
# Scripts

The script of every code point, as the lengths of the runs of one script from U+0000 on, the names
of the scripts, and the further characters that texts of a script use. A character that is listed
as used by some scripts counts for these alone: it leaves the characters that are common to all
scripts or that take the script of the character before them.
-/

namespace LinkWatch.Unicode

/-- Runs of code points of one script, each written as the script and the length of the run. -/
def scriptRuns : String :=
  String.join
  ["Zyyy65Latn26Zyyy6Latn26Zyyy47Latn1Zyyy15Latn1Zyyy5Latn23Zyyy1Latn31Zyyy1Latn449Zyyy39Latn5",
   "Zyyy5Bopo2Zyyy20Zinh112Grek4Zyyy1Grek3Zzzz2Grek4Zyyy1Grek1Zzzz4Grek1Zyyy1Grek1Zyyy1Grek3",
   "Zzzz1Grek1Zzzz1Grek20Zzzz1Grek63Copt14Grek16Cyrl133Zinh2Cyrl169Zzzz1Armn38Zzzz2Armn50Zzzz2",
   "Armn3Zzzz1Hebr55Zzzz8Hebr27Zzzz4Hebr6Zzzz11Arab5Zyyy1Arab6Zyyy1Arab14Zyyy1Arab3Zyyy1Arab32",
   "Zyyy1Arab10Zinh11Arab26Zinh1Arab108Zyyy1Arab34Syrc14Zzzz1Syrc60Zzzz2Syrc3Arab48Thaa50Zzzz14",
   "Nkoo59Zzzz2Nkoo3Samr46Zzzz2Samr15Zzzz1Mand28Zzzz2Mand1Zzzz1Syrc11Zzzz5Arab31Zzzz1Arab2Zzzz5",
   "Arab75Zyyy1Arab29Deva81Zinh4Deva15Zyyy2Deva26Beng4Zzzz1Beng8Zzzz2Beng2Zzzz2Beng22Zzzz1Beng7",
   "Zzzz1Beng1Zzzz3Beng4Zzzz2Beng9Zzzz2Beng2Zzzz2Beng4Zzzz8Beng1Zzzz4Beng2Zzzz1Beng5Zzzz2Beng25",
   "Zzzz2Guru3Zzzz1Guru6Zzzz4Guru2Zzzz2Guru22Zzzz1Guru7Zzzz1Guru2Zzzz1Guru2Zzzz1Guru2Zzzz2Guru1",
   "Zzzz1Guru5Zzzz4Guru2Zzzz2Guru3Zzzz3Guru1Zzzz7Guru4Zzzz1Guru1Zzzz7Guru17Zzzz10Gujr3Zzzz1Gujr9",
   "Zzzz1Gujr3Zzzz1Gujr22Zzzz1Gujr7Zzzz1Gujr2Zzzz1Gujr5Zzzz2Gujr10Zzzz1Gujr3Zzzz1Gujr3Zzzz2Gujr1",
   "Zzzz15Gujr4Zzzz2Gujr12Zzzz7Gujr7Zzzz1Orya3Zzzz1Orya8Zzzz2Orya2Zzzz2Orya22Zzzz1Orya7Zzzz1",
   "Orya2Zzzz1Orya5Zzzz2Orya9Zzzz2Orya2Zzzz2Orya3Zzzz7Orya3Zzzz4Orya2Zzzz1Orya5Zzzz2Orya18Zzzz10",
   "Taml2Zzzz1Taml6Zzzz3Taml3Zzzz1Taml4Zzzz3Taml2Zzzz1Taml1Zzzz1Taml2Zzzz3Taml2Zzzz3Taml3Zzzz3",
   "Taml12Zzzz4Taml5Zzzz3Taml3Zzzz1Taml4Zzzz2Taml1Zzzz6Taml1Zzzz14Taml21Zzzz5Telu13Zzzz1Telu3",
   "Zzzz1Telu23Zzzz1Telu16Zzzz2Telu9Zzzz1Telu3Zzzz1Telu4Zzzz7Telu2Zzzz1Telu3Zzzz2Telu1Zzzz2Telu4",
   "Zzzz2Telu10Zzzz7Telu9Knda13Zzzz1Knda3Zzzz1Knda23Zzzz1Knda10Zzzz1Knda5Zzzz2Knda9Zzzz1Knda3",
   "Zzzz1Knda4Zzzz7Knda2Zzzz6Knda2Zzzz1Knda4Zzzz2Knda10Zzzz1Knda3Zzzz12Mlym13Zzzz1Mlym3Zzzz1",
   "Mlym51Zzzz1Mlym3Zzzz1Mlym6Zzzz4Mlym16Zzzz2Mlym26Zzzz1Sinh3Zzzz1Sinh18Zzzz3Sinh24Zzzz1Sinh9",
   "Zzzz1Sinh1Zzzz2Sinh7Zzzz3Sinh1Zzzz4Sinh6Zzzz1Sinh1Zzzz1Sinh8Zzzz6Sinh10Zzzz2Sinh3Zzzz12",
   "Thai58Zzzz4Zyyy1Thai28Zzzz37Laoo2Zzzz1Laoo1Zzzz1Laoo5Zzzz1Laoo24Zzzz1Laoo1Zzzz1Laoo23Zzzz2",
   "Laoo5Zzzz1Laoo1Zzzz1Laoo7Zzzz1Laoo10Zzzz2Laoo4Zzzz32Tibt72Zzzz1Tibt36Zzzz4Tibt39Zzzz1Tibt36",
   "Zzzz1Tibt15Zzzz1Tibt7Zyyy4Tibt2Zzzz37Mymr160Geor38Zzzz1Geor1Zzzz5Geor1Zzzz2Geor43Zyyy1Geor4",
   "Hang256Ethi73Zzzz1Ethi4Zzzz2Ethi7Zzzz1Ethi1Zzzz1Ethi4Zzzz2Ethi41Zzzz1Ethi4Zzzz2Ethi33Zzzz1",
   "Ethi4Zzzz2Ethi7Zzzz1Ethi1Zzzz1Ethi4Zzzz2Ethi15Zzzz1Ethi57Zzzz1Ethi4Zzzz2Ethi67Zzzz2Ethi32",
   "Zzzz3Ethi26Zzzz6Cher86Zzzz2Cher6Zzzz2Cans640Ogam29Zzzz3Runr75Zyyy3Runr11Zzzz7Tglg22Zzzz9",
   "Tglg1Hano21Zyyy2Zzzz9Buhd20Zzzz12Tagb13Zzzz1Tagb3Zzzz1Tagb2Zzzz12Khmr94Zzzz2Khmr10Zzzz6",
   "Khmr10Zzzz6Mong2Zyyy2Mong1Zyyy1Mong20Zzzz6Mong89Zzzz7Mong43Zzzz5Cans70Zzzz10Limb31Zzzz1",
   "Limb12Zzzz4Limb12Zzzz4Limb1Zzzz3Limb12Tale30Zzzz2Tale5Zzzz11Talu44Zzzz4Talu26Zzzz6Talu11",
   "Zzzz3Talu2Khmr32Bugi28Zzzz2Bugi2Lana63Zzzz1Lana29Zzzz2Lana11Zzzz6Lana10Zzzz6Lana14Zzzz2",
   "Zinh31Zzzz49Bali77Zzzz1Bali50Sund64Batk52Zzzz8Batk4Lepc56Zzzz3Lepc15Zzzz3Lepc3Olck48Cyrl11",
   "Zzzz5Geor43Zzzz2Geor3Sund8Zzzz8Zinh3Zyyy1Zinh13Zyyy1Zinh7Zyyy4Zinh1Zyyy6Zinh1Zyyy3Zinh2Zyyy1",
   "Zzzz5Latn38Grek5Cyrl1Latn49Grek5Latn4Grek5Latn13Cyrl1Latn70Grek1Zinh64Latn256Grek22Zzzz2",
   "Grek6Zzzz2Grek38Zzzz2Grek6Zzzz2Grek8Zzzz1Grek1Zzzz1Grek1Zzzz1Grek1Zzzz1Grek31Zzzz2Grek53",
   "Zzzz1Grek15Zzzz1Grek14Zzzz2Grek6Zzzz1Grek19Zzzz2Grek3Zzzz1Grek9Zzzz1Zyyy12Zinh2Zyyy87Zzzz1",
   "Zyyy11Latn1Zzzz2Zyyy11Latn1Zyyy15Zzzz1Latn13Zzzz3Zyyy33Zzzz15Zinh33Zzzz15Zyyy38Grek1Zyyy3",
   "Latn2Zyyy6Latn1Zyyy27Latn1Zyyy17Latn41Zyyy3Zzzz4Zyyy666Zzzz22Zyyy11Zzzz21Zyyy928Brai256",
   "Zyyy628Zzzz2Zyyy32Zzzz1Zyyy105Glag96Latn32Copt116Zzzz5Copt7Geor38Zzzz1Geor1Zzzz5Geor1Zzzz2",
   "Tfng56Zzzz7Tfng2Zzzz14Tfng1Ethi23Zzzz9Ethi7Zzzz1Ethi7Zzzz1Ethi7Zzzz1Ethi7Zzzz1Ethi7Zzzz1",
   "Ethi7Zzzz1Ethi7Zzzz1Ethi7Zzzz1Cyrl32Zyyy94Zzzz34Hani26Zzzz1Hani89Zzzz12Hani214Zzzz26Zyyy21",
   "Hani1Zyyy1Hani1Zyyy25Hani9Zinh4Hang2Zyyy8Hani4Zyyy4Zzzz1Hira86Zzzz2Zinh2Zyyy2Hira3Zyyy1",
   "Kana90Zyyy2Kana3Zzzz5Bopo43Zzzz1Hang94Zzzz1Zyyy16Bopo32Zyyy38Zzzz9Zyyy1Kana16Hang31Zzzz1",
   "Zyyy64Hang31Zyyy81Kana47Zyyy1Kana88Zyyy168Hani6592Zyyy64Hani20992Yiii1165Zzzz3Yiii55Zzzz9",
   "Lisu48Vaii300Zzzz20Cyrl96Bamu88Zzzz8Zyyy34Latn102Zyyy3Latn67Zzzz2Latn2Zzzz1Latn1Zzzz1Latn8",
   "Zzzz21Latn14Sylo45Zzzz3Zyyy10Zzzz6Phag56Zzzz8Saur70Zzzz8Saur12Zzzz6Deva32Kali46Zyyy1Kali1",
   "Rjng36Zzzz11Rjng1Hang29Zzzz3Java78Zzzz1Zyyy1Java10Zzzz4Java2Mymr31Zzzz1Cham55Zzzz9Cham14",
   "Zzzz2Cham10Zzzz2Cham4Mymr32Tavt67Zzzz24Tavt5Mtei23Zzzz10Ethi6Zzzz2Ethi6Zzzz2Ethi6Zzzz9Ethi7",
   "Zzzz1Ethi7Zzzz1Latn43Zyyy1Latn9Grek1Latn4Zyyy2Zzzz4Cher80Mtei46Zzzz2Mtei10Zzzz6Hang11172",
   "Zzzz12Hang23Zzzz4Hang49Zzzz8452Hani366Zzzz2Hani106Zzzz38Latn7Zzzz12Armn5Zzzz5Hebr26Zzzz1",
   "Hebr5Zzzz1Hebr1Zzzz1Hebr2Zzzz1Hebr2Zzzz1Hebr10Arab115Zzzz16Arab363Zyyy2Arab80Zzzz2Arab54",
   "Zzzz7Arab1Zzzz32Arab16Zinh16Zyyy10Zzzz6Zinh14Cyrl2Zyyy35Zzzz1Zyyy19Zzzz1Zyyy4Zzzz4Arab5Zzzz1",
   "Arab135Zzzz2Zyyy1Zzzz1Zyyy32Latn26Zyyy6Latn26Zyyy11Kana10Zyyy1Kana45Zyyy2Hang31Zzzz3Hang6",
   "Zzzz2Hang6Zzzz2Hang6Zzzz2Hang3Zzzz3Zyyy7Zzzz1Zyyy7Zzzz10Zyyy5Zzzz2Linb12Zzzz1Linb26Zzzz1",
   "Linb19Zzzz1Linb2Zzzz1Linb15Zzzz2Linb14Zzzz34Linb123Zzzz5Zyyy3Zzzz4Zyyy45Zzzz3Zyyy9Grek79",
   "Zzzz1Zyyy13Zzzz3Grek1Zzzz47Zyyy45Zinh1Zzzz130Lyci29Zzzz3Cari49Zzzz15Zinh1Zyyy27Zzzz4Ital36",
   "Zzzz9Ital3Goth27Zzzz5Perm43Zzzz5Ugar30Zzzz1Ugar1Xpeo36Zzzz4Xpeo14Zzzz42Dsrt80Shaw48Osma30",
   "Zzzz2Osma10Zzzz6Osge36Zzzz4Osge36Zzzz4Elba40Zzzz8Aghb52Zzzz11Aghb1Vith11Zzzz1Vith15Zzzz1",
   "Vith7Zzzz1Vith2Zzzz1Vith11Zzzz1Vith15Zzzz1Vith7Zzzz1Vith2Zzzz3Todr52Zzzz12Lina311Zzzz9Lina22",
   "Zzzz10Lina8Zzzz24Latn6Zzzz1Latn42Zzzz1Latn9Zzzz69Cprt6Zzzz2Cprt1Zzzz1Cprt44Zzzz1Cprt2Zzzz3",
   "Cprt1Zzzz2Cprt1Armi22Zzzz1Armi9Palm32Nbat31Zzzz8Nbat9Zzzz48Hatr19Zzzz1Hatr2Zzzz5Hatr5Phnx28",
   "Zzzz3Phnx1Lydi26Zzzz5Lydi1Zzzz64Mero32Merc24Zzzz4Merc20Zzzz2Merc46Khar4Zzzz1Khar2Zzzz5Khar8",
   "Zzzz1Khar3Zzzz1Khar29Zzzz2Khar3Zzzz4Khar10Zzzz7Khar9Zzzz7Sarb32Narb32Zzzz32Mani39Zzzz4Mani12",
   "Zzzz9Avst54Zzzz3Avst7Prti22Zzzz2Prti8Phli19Zzzz5Phli8Phlp18Zzzz7Phlp4Zzzz12Phlp7Zzzz80Orkh73",
   "Zzzz55Hung51Zzzz13Hung51Zzzz7Hung6Rohg40Zzzz8Rohg10Zzzz6Gara38Zzzz3Gara29Zzzz8Gara2Zzzz208",
   "Arab31Zzzz1Yezi42Zzzz1Yezi3Zzzz2Yezi2Zzzz16Arab3Zzzz55Arab4Sogo40Zzzz8Sogd42Zzzz22Ougr26",
   "Zzzz38Chrs28Zzzz20Elym23Zzzz9Brah78Zzzz4Brah36Zzzz9Brah1Kthi67Zzzz10Kthi1Zzzz2Sora25Zzzz7",
   "Sora10Zzzz6Cakm53Zzzz1Cakm18Zzzz8Mahj39Zzzz9Shrd96Zzzz1Sinh20Zzzz11Khoj18Zzzz1Khoj47Zzzz62",
   "Mult7Zzzz1Mult1Zzzz1Mult4Zzzz1Mult15Zzzz1Mult11Zzzz6Sind59Zzzz5Sind10Zzzz6Gran4Zzzz1Gran8",
   "Zzzz2Gran2Zzzz2Gran22Zzzz1Gran7Zzzz1Gran2Zzzz1Gran5Zzzz1Zinh1Gran9Zzzz2Gran2Zzzz2Gran3Zzzz2",
   "Gran1Zzzz6Gran1Zzzz5Gran7Zzzz2Gran7Zzzz3Gran5Zzzz11Tutg10Zzzz1Tutg1Zzzz2Tutg1Zzzz1Tutg38",
   "Zzzz1Tutg10Zzzz1Tutg1Zzzz2Tutg1Zzzz1Tutg4Zzzz1Tutg10Zzzz1Tutg2Zzzz8Tutg2Zzzz29Newa92Zzzz1",
   "Newa5Zzzz30Tirh72Zzzz8Tirh10Zzzz166Sidd54Zzzz2Sidd38Zzzz34Modi69Zzzz11Modi10Zzzz6Mong13",
   "Zzzz19Takr58Zzzz6Takr10Zzzz6Mymr20Zzzz28Ahom27Zzzz2Ahom15Zzzz4Ahom23Zzzz185Dogr60Zzzz100",
   "Wara83Zzzz12Wara1Diak7Zzzz2Diak1Zzzz2Diak8Zzzz1Diak2Zzzz1Diak30Zzzz1Diak2Zzzz2Diak12Zzzz9",
   "Diak10Zzzz70Nand8Zzzz2Nand46Zzzz2Nand11Zzzz27Zanb72Zzzz8Soyo83Zzzz13Cans16Pauc57Zzzz7Deva10",
   "Zzzz182Sunu34Zzzz14Sunu10Zzzz6Bhks9Zzzz1Bhks45Zzzz1Bhks14Zzzz10Bhks29Zzzz3Marc32Zzzz2Marc22",
   "Zzzz1Marc14Zzzz73Gonm7Zzzz1Gonm2Zzzz1Gonm44Zzzz3Gonm1Zzzz1Gonm2Zzzz1Gonm9Zzzz8Gonm10Zzzz6",
   "Gong6Zzzz1Gong2Zzzz1Gong37Zzzz1Gong2Zzzz1Gong6Zzzz7Gong10Zzzz310Maka25Zzzz7Kawi17Zzzz1Kawi41",
   "Zzzz3Kawi29Zzzz85Lisu1Zzzz15Taml50Zzzz13Taml1Xsux922Zzzz102Xsux111Zzzz1Xsux5Zzzz11Xsux196",
   "Zzzz2636Cpmn99Zzzz13Egyp1110Zzzz10Egyp3995Zzzz5Hluw583Zzzz6841Gukh58Zzzz1734Bamu569Zzzz7",
   "Mroo31Zzzz1Mroo10Zzzz4Mroo2Tnsa79Zzzz1Tnsa10Zzzz6Bass30Zzzz2Bass6Zzzz10Hmng70Zzzz10Hmng10",
   "Zzzz1Hmng7Zzzz1Hmng21Zzzz5Hmng19Zzzz432Krai58Zzzz198Medf91Zzzz101Plrd75Zzzz4Plrd57Zzzz7",
   "Plrd17Zzzz64Tang1Nshu1Hani2Kits1Zzzz11Hani2Zzzz14Tang6136Zzzz8Tang768Kits470Zzzz41Kits1Tang9",
   "Zzzz8935Kana4Zzzz1Kana7Zzzz1Kana2Zzzz1Kana1Hira287Kana3Zzzz15Hira1Zzzz29Hira3Zzzz2Kana1",
   "Zzzz14Kana4Zzzz8Nshu396Zzzz2308Dupl107Zzzz5Dupl13Zzzz3Dupl9Zzzz7Dupl10Zzzz2Dupl4Zyyy4",
   "Zzzz3932Zyyy250Zzzz6Zyyy436Zzzz76Zinh46Zzzz2Zinh23Zzzz9Zyyy116Zzzz60Zyyy246Zzzz10Zyyy39Zzzz2",
   "Zyyy62Zinh3Zyyy17Zinh8Zyyy2Zinh7Zyyy30Zinh4Zyyy61Zzzz21Grek70Zzzz122Zyyy20Zzzz12Zyyy20Zzzz12",
   "Zyyy87Zzzz9Zyyy25Zzzz135Zyyy85Zzzz1Zyyy71Zzzz1Zyyy2Zzzz2Zyyy1Zzzz2Zyyy2Zzzz2Zyyy4Zzzz1Zyyy12",
   "Zzzz1Zyyy1Zzzz1Zyyy7Zzzz1Zyyy65Zzzz1Zyyy4Zzzz2Zyyy8Zzzz1Zyyy7Zzzz1Zyyy28Zzzz1Zyyy4Zzzz1Zyyy5",
   "Zzzz1Zyyy1Zzzz3Zyyy7Zzzz1Zyyy340Zzzz2Zyyy292Zzzz2Zyyy50Sgnw652Zzzz15Sgnw5Zzzz1Sgnw15Zzzz1104",
   "Latn31Zzzz6Latn6Zzzz213Glag7Zzzz1Glag17Zzzz2Glag7Zzzz1Glag2Zzzz1Glag5Zzzz5Cyrl62Zzzz33Cyrl1",
   "Zzzz112Hmnp45Zzzz3Hmnp14Zzzz2Hmnp10Zzzz4Hmnp2Zzzz320Toto31Zzzz17Wcho58Zzzz5Wcho1Zzzz464",
   "Nagm42Zzzz214Onao43Zzzz4Onao1Zzzz480Ethi7Zzzz1Ethi4Zzzz1Ethi2Zzzz1Ethi15Zzzz1Mend197Zzzz2",
   "Mend16Zzzz41Adlm76Zzzz4Adlm10Zzzz4Adlm2Zzzz785Zyyy68Zzzz76Zyyy61Zzzz194Arab4Zzzz1Arab27Zzzz1",
   "Arab2Zzzz1Arab1Zzzz2Arab1Zzzz1Arab10Zzzz1Arab4Zzzz1Arab1Zzzz1Arab1Zzzz6Arab1Zzzz4Arab1Zzzz1",
   "Arab1Zzzz1Arab1Zzzz1Arab3Zzzz1Arab2Zzzz1Arab1Zzzz2Arab1Zzzz1Arab1Zzzz1Arab1Zzzz1Arab1Zzzz1",
   "Arab1Zzzz1Arab2Zzzz1Arab1Zzzz2Arab4Zzzz1Arab7Zzzz1Arab4Zzzz1Arab4Zzzz1Arab1Zzzz1Arab10Zzzz1",
   "Arab17Zzzz5Arab3Zzzz1Arab5Zzzz1Arab17Zzzz52Arab2Zzzz270Zyyy44Zzzz4Zyyy100Zzzz12Zyyy15Zzzz2",
   "Zyyy15Zzzz1Zyyy15Zzzz1Zyyy37Zzzz10Zyyy174Zzzz56Zyyy26Hira1Zyyy2Zzzz13Zyyy44Zzzz4Zyyy9Zzzz7",
   "Zyyy2Zzzz14Zyyy6Zzzz154Zyyy984Zzzz4Zyyy17Zzzz3Zyyy13Zzzz3Zyyy119Zzzz4Zyyy95Zzzz6Zyyy12Zzzz4",
   "Zyyy1Zzzz15Zyyy12Zzzz4Zyyy56Zzzz8Zyyy10Zzzz6Zyyy40Zzzz8Zyyy30Zzzz2Zyyy12Zzzz4Zyyy2Zzzz62",
   "Zyyy340Zzzz12Zyyy14Zzzz2Zyyy13Zzzz3Zyyy10Zzzz5Zyyy56Zzzz7Zyyy15Zzzz2Zyyy11Zzzz6Zyyy9Zzzz7",
   "Zyyy147Zzzz1Zyyy102Zzzz1030Hani42720Zzzz32Hani4154Zzzz6Hani222Zzzz2Hani5762Zzzz14Hani7473",
   "Zzzz15Hani622Zzzz2466Hani542Zzzz1506Hani4939Zzzz5Hani4192Zzzz711761Zyyy1Zzzz30Zyyy96Zzzz128",
   "Zinh240Zzzz196112"]

/-- The runs of code points of one script, in order, with the first and last code point. -/
def scriptTable : List (String × Nat × Nat) :=
  readRuns 0 [] 0 scriptRuns.toList

/-- The normalised names of the scripts, short and long. -/
def scriptNames : List (String × String) :=
  [("adlam", "Adlm"), ("adlm", "Adlm"), ("aghb", "Aghb"), ("caucasianalbanian", "Aghb"),
   ("ahom", "Ahom"), ("arab", "Arab"), ("arabic", "Arab"), ("armi", "Armi"),
   ("imperialaramaic", "Armi"), ("armenian", "Armn"), ("armn", "Armn"), ("avestan", "Avst"),
   ("avst", "Avst"), ("bali", "Bali"), ("balinese", "Bali"), ("bamu", "Bamu"), ("bamum", "Bamu"),
   ("bass", "Bass"), ("bassavah", "Bass"), ("batak", "Batk"), ("batk", "Batk"), ("beng", "Beng"),
   ("bengali", "Beng"), ("bhaiksuki", "Bhks"), ("bhks", "Bhks"), ("bopo", "Bopo"),
   ("bopomofo", "Bopo"), ("brah", "Brah"), ("brahmi", "Brah"), ("brai", "Brai"),
   ("braille", "Brai"), ("bugi", "Bugi"), ("buginese", "Bugi"), ("buhd", "Buhd"),
   ("buhid", "Buhd"), ("cakm", "Cakm"), ("chakma", "Cakm"), ("canadianaboriginal", "Cans"),
   ("cans", "Cans"), ("cari", "Cari"), ("carian", "Cari"), ("cham", "Cham"), ("cher", "Cher"),
   ("cherokee", "Cher"), ("chorasmian", "Chrs"), ("chrs", "Chrs"), ("copt", "Copt"),
   ("coptic", "Copt"), ("qaac", "Copt"), ("cpmn", "Cpmn"), ("cyprominoan", "Cpmn"),
   ("cprt", "Cprt"), ("cypriot", "Cprt"), ("cyrillic", "Cyrl"), ("cyrl", "Cyrl"),
   ("deva", "Deva"), ("devanagari", "Deva"), ("diak", "Diak"), ("divesakuru", "Diak"),
   ("dogr", "Dogr"), ("dogra", "Dogr"), ("deseret", "Dsrt"), ("dsrt", "Dsrt"), ("dupl", "Dupl"),
   ("duployan", "Dupl"), ("egyp", "Egyp"), ("egyptianhieroglyphs", "Egyp"), ("elba", "Elba"),
   ("elbasan", "Elba"), ("elym", "Elym"), ("elymaic", "Elym"), ("ethi", "Ethi"),
   ("ethiopic", "Ethi"), ("gara", "Gara"), ("garay", "Gara"), ("geor", "Geor"),
   ("georgian", "Geor"), ("glag", "Glag"), ("glagolitic", "Glag"), ("gong", "Gong"),
   ("gunjalagondi", "Gong"), ("gonm", "Gonm"), ("masaramgondi", "Gonm"), ("goth", "Goth"),
   ("gothic", "Goth"), ("gran", "Gran"), ("grantha", "Gran"), ("greek", "Grek"), ("grek", "Grek"),
   ("gujarati", "Gujr"), ("gujr", "Gujr"), ("gukh", "Gukh"), ("gurungkhema", "Gukh"),
   ("gurmukhi", "Guru"), ("guru", "Guru"), ("hang", "Hang"), ("hangul", "Hang"), ("han", "Hani"),
   ("hani", "Hani"), ("hano", "Hano"), ("hanunoo", "Hano"), ("hatr", "Hatr"), ("hatran", "Hatr"),
   ("hebr", "Hebr"), ("hebrew", "Hebr"), ("hira", "Hira"), ("hiragana", "Hira"),
   ("anatolianhieroglyphs", "Hluw"), ("hluw", "Hluw"), ("hmng", "Hmng"), ("pahawhhmong", "Hmng"),
   ("hmnp", "Hmnp"), ("nyiakengpuachuehmong", "Hmnp"), ("hung", "Hung"), ("oldhungarian", "Hung"),
   ("ital", "Ital"), ("olditalic", "Ital"), ("java", "Java"), ("javanese", "Java"),
   ("kali", "Kali"), ("kayahli", "Kali"), ("kana", "Kana"), ("katakana", "Kana"),
   ("kawi", "Kawi"), ("khar", "Khar"), ("kharoshthi", "Khar"), ("khmer", "Khmr"),
   ("khmr", "Khmr"), ("khoj", "Khoj"), ("khojki", "Khoj"), ("khitansmallscript", "Kits"),
   ("kits", "Kits"), ("kannada", "Knda"), ("knda", "Knda"), ("kiratrai", "Krai"),
   ("krai", "Krai"), ("kaithi", "Kthi"), ("kthi", "Kthi"), ("lana", "Lana"), ("taitham", "Lana"),
   ("lao", "Laoo"), ("laoo", "Laoo"), ("latin", "Latn"), ("latn", "Latn"), ("lepc", "Lepc"),
   ("lepcha", "Lepc"), ("limb", "Limb"), ("limbu", "Limb"), ("lina", "Lina"), ("lineara", "Lina"),
   ("linb", "Linb"), ("linearb", "Linb"), ("lisu", "Lisu"), ("lyci", "Lyci"), ("lycian", "Lyci"),
   ("lydi", "Lydi"), ("lydian", "Lydi"), ("mahajani", "Mahj"), ("mahj", "Mahj"), ("maka", "Maka"),
   ("makasar", "Maka"), ("mand", "Mand"), ("mandaic", "Mand"), ("mani", "Mani"),
   ("manichaean", "Mani"), ("marc", "Marc"), ("marchen", "Marc"), ("medefaidrin", "Medf"),
   ("medf", "Medf"), ("mend", "Mend"), ("mendekikakui", "Mend"), ("merc", "Merc"),
   ("meroiticcursive", "Merc"), ("mero", "Mero"), ("meroitichieroglyphs", "Mero"),
   ("malayalam", "Mlym"), ("mlym", "Mlym"), ("modi", "Modi"), ("mong", "Mong"),
   ("mongolian", "Mong"), ("mro", "Mroo"), ("mroo", "Mroo"), ("meeteimayek", "Mtei"),
   ("mtei", "Mtei"), ("mult", "Mult"), ("multani", "Mult"), ("myanmar", "Mymr"), ("mymr", "Mymr"),
   ("nagm", "Nagm"), ("nagmundari", "Nagm"), ("nand", "Nand"), ("nandinagari", "Nand"),
   ("narb", "Narb"), ("oldnortharabian", "Narb"), ("nabataean", "Nbat"), ("nbat", "Nbat"),
   ("newa", "Newa"), ("nko", "Nkoo"), ("nkoo", "Nkoo"), ("nshu", "Nshu"), ("nushu", "Nshu"),
   ("ogam", "Ogam"), ("ogham", "Ogam"), ("olchiki", "Olck"), ("olck", "Olck"), ("olonal", "Onao"),
   ("onao", "Onao"), ("oldturkic", "Orkh"), ("orkh", "Orkh"), ("oriya", "Orya"), ("orya", "Orya"),
   ("osage", "Osge"), ("osge", "Osge"), ("osma", "Osma"), ("osmanya", "Osma"),
   ("olduyghur", "Ougr"), ("ougr", "Ougr"), ("palm", "Palm"), ("palmyrene", "Palm"),
   ("pauc", "Pauc"), ("paucinhau", "Pauc"), ("oldpermic", "Perm"), ("perm", "Perm"),
   ("phag", "Phag"), ("phagspa", "Phag"), ("inscriptionalpahlavi", "Phli"), ("phli", "Phli"),
   ("phlp", "Phlp"), ("psalterpahlavi", "Phlp"), ("phnx", "Phnx"), ("phoenician", "Phnx"),
   ("miao", "Plrd"), ("plrd", "Plrd"), ("inscriptionalparthian", "Prti"), ("prti", "Prti"),
   ("rejang", "Rjng"), ("rjng", "Rjng"), ("hanifirohingya", "Rohg"), ("rohg", "Rohg"),
   ("runic", "Runr"), ("runr", "Runr"), ("samaritan", "Samr"), ("samr", "Samr"),
   ("oldsoutharabian", "Sarb"), ("sarb", "Sarb"), ("saur", "Saur"), ("saurashtra", "Saur"),
   ("sgnw", "Sgnw"), ("signwriting", "Sgnw"), ("shavian", "Shaw"), ("shaw", "Shaw"),
   ("sharada", "Shrd"), ("shrd", "Shrd"), ("sidd", "Sidd"), ("siddham", "Sidd"),
   ("khudawadi", "Sind"), ("sind", "Sind"), ("sinh", "Sinh"), ("sinhala", "Sinh"),
   ("sogd", "Sogd"), ("sogdian", "Sogd"), ("oldsogdian", "Sogo"), ("sogo", "Sogo"),
   ("sora", "Sora"), ("sorasompeng", "Sora"), ("soyo", "Soyo"), ("soyombo", "Soyo"),
   ("sund", "Sund"), ("sundanese", "Sund"), ("sunu", "Sunu"), ("sunuwar", "Sunu"),
   ("sylo", "Sylo"), ("sylotinagri", "Sylo"), ("syrc", "Syrc"), ("syriac", "Syrc"),
   ("tagb", "Tagb"), ("tagbanwa", "Tagb"), ("takr", "Takr"), ("takri", "Takr"), ("taile", "Tale"),
   ("tale", "Tale"), ("newtailue", "Talu"), ("talu", "Talu"), ("tamil", "Taml"), ("taml", "Taml"),
   ("tang", "Tang"), ("tangut", "Tang"), ("taiviet", "Tavt"), ("tavt", "Tavt"), ("telu", "Telu"),
   ("telugu", "Telu"), ("tfng", "Tfng"), ("tifinagh", "Tfng"), ("tagalog", "Tglg"),
   ("tglg", "Tglg"), ("thaa", "Thaa"), ("thaana", "Thaa"), ("thai", "Thai"), ("tibetan", "Tibt"),
   ("tibt", "Tibt"), ("tirh", "Tirh"), ("tirhuta", "Tirh"), ("tangsa", "Tnsa"), ("tnsa", "Tnsa"),
   ("todhri", "Todr"), ("todr", "Todr"), ("toto", "Toto"), ("tulutigalari", "Tutg"),
   ("tutg", "Tutg"), ("ugar", "Ugar"), ("ugaritic", "Ugar"), ("vai", "Vaii"), ("vaii", "Vaii"),
   ("vith", "Vith"), ("vithkuqi", "Vith"), ("wara", "Wara"), ("warangciti", "Wara"),
   ("wancho", "Wcho"), ("wcho", "Wcho"), ("oldpersian", "Xpeo"), ("xpeo", "Xpeo"),
   ("cuneiform", "Xsux"), ("xsux", "Xsux"), ("yezi", "Yezi"), ("yezidi", "Yezi"), ("yi", "Yiii"),
   ("yiii", "Yiii"), ("zanabazarsquare", "Zanb"), ("zanb", "Zanb"), ("inherited", "Zinh"),
   ("qaai", "Zinh"), ("zinh", "Zinh"), ("common", "Zyyy"), ("zyyy", "Zyyy")]

/-- The characters of other scripts, or of none, that texts of a script use. -/
def scriptAdditions : List (String × String) :=
  [("Adlm", "1567 1 32 1 6670 1 3569 1"),
   ("Aghb", "772 1 44 1 44 1"),
   ("Arab", "1548 1 14 1 3 1 32 1 10 11 26 1 6622 1 3569 1 52988 2 1440 28"),
   ("Armn", "776 1"),
   ("Avst", "183 1 11640 2"),
   ("Beng", "700 1 1684 2 17 2 4970 1 1 1 2 2 1 1 8 1 8 1 2 1 4 1 2 3 35833 1"),
   ("Bopo", "711 1 1 3 13 1 11559 3 4 10 1 13 10 4 2 1 6 1 195 1 52553 2 282 5"),
   ("Bugi", "43471 1"),
   ("Buhd", "5941 2"),
   ("Cakm", "2534 10 1616 10"),
   ("Cari", "183 1 8098 1 2 1 3539 1"),
   ("Cher", "768 3 1 1 6 2 22 2 11 2"),
   ("Copt", "183 1 584 1 3 2 1 1 108 2 10913 1 54472 28"),
   ("Cpmn", "65792 2"),
   ("Cprt", "65792 3 4 45 3 9"),
   ("Cyrl", "700 1 67 3 1 1 1 1 1 1 2 1 5 1 371 2 6513 1 4170 1"),
   ("Deva", "700 1 1684 2 17 2 4970 39 1 2 1014 1 34623 10"),
   ("Dogr", "2404 12 40640 10"),
   ("Dupl", "183 1 591 2 1 1 24 2 11031 1 101987 4"),
   ("Elba", "183 1 589 1"),
   ("Ethi", "782 1"),
   ("Gara", "1548 1 14 1 3 1"),
   ("Geor", "183 1 1233 1 2929 1 3934 1 3542 1"),
   ("Glag", "183 1 587 1 1 1 382 1 2 1 257 1 2929 1 3934 1 3560 1 30763 1"),
   ("Gong", "183 1 2220 2"),
   ("Gonm", "2404 2"),
   ("Goth", "183 1 588 2 2 1 40 1"),
   ("Gran", "2385 2 17 2 640 14 4316 1 1 2 30 3 3 2 1014 1 62026 1 3220 2 1 1"),
   ("Grek", "183 1 584 2 2 1 1 1 1 1 10 1 46 1 2 1 46 1 6731 2 667 1"),
   ("Gujr", "2385 2 17 2 40650 10"),
   ("Gukh", "2405 1"),
   ("Guru", "2385 2 17 2 40650 10"),
   ("Hang", "12289 3 4 10 1 13 16 1 6 1 195 1 52553 2 282 5"),
   ("Hani",
     String.join
     ["183 1 12088 16 1 3 2 1 1 10 1 13 10 4 2 1 6 1 4 4 187 1 148 16 32 38 9 1 48 40 56 49 15 ",
      "12 51 1 88 25 10 5 96 31 29441 8 22333 2 282 5 54266 18 7902 2"]),
   ("Hano", "5941 2"),
   ("Hebr", "775 2"),
   ("Hira", "12289 3 4 10 1 13 16 6 1 1 4 2 91 4 3 1 90 2 52552 2 282 5 10 1 45 2"),
   ("Hung", "8282 1 2 1 3539 1 15 1"),
   ("Java", "43471 1"),
   ("Kali", "43310 1"),
   ("Kana", "773 1 29 1 11485 3 4 10 1 13 16 6 1 1 4 2 91 4 3 1 90 2 52552 2 282 5 10 1 45 2"),
   ("Khoj", "2790 10 40256 10"),
   ("Knda", "2385 2 17 2 4970 1 1 2 6 1 23 1 1 1 35643 6"),
   ("Kthi", "2406 10 9409 1 31230 10"),
   ("Latn",
     String.join
     ["183 1 516 1 10 1 1 3 1 1 9 1 1 1 38 15 1 2 1 1 12 1 2 3 7 2 1 2 38 1 5 1 4 13 277 2 ",
      "1226 2 1960 1 3324 1 566 1 192 1 3366 1 30952 8 550 1"]),
   ("Limb", "2405 1"),
   ("Lina", "65799 45"),
   ("Linb", "65792 3 4 45 3 9"),
   ("Lisu", "700 1 16 1 11580 2"),
   ("Lyci", "8282 1"),
   ("Lydi", "183 1 11641 1"),
   ("Mahj", "183 1 2220 12 40640 10"),
   ("Mand", "1600 1"),
   ("Mani", "1600 1"),
   ("Mero", "8285 1"),
   ("Mlym", "2385 2 17 2 4980 1 23 1 35645 3"),
   ("Modi", "43056 10"),
   ("Mong", "6146 2 1 1 2089 1 4049 2 5 4"),
   ("Mult", "2662 10"),
   ("Mymr", "43310 1"),
   ("Nand", "2404 2 896 10 4089 1 8 1 7 1 35637 6"),
   ("Nkoo", "1548 1 14 1 3 1 63262 2"),
   ("Onao", "2404 2"),
   ("Orkh", "8282 1 3541 1"),
   ("Orya", "2385 2 17 2 4980 1 23 1"),
   ("Osge", "769 1 2 1 6 1 76 1"),
   ("Ougr", "1600 1 66737 1"),
   ("Perm", "183 1 584 1 5 3 10 1 367 1"),
   ("Phag", "6146 2 1 1 2089 1 4050 1"),
   ("Phlp", "1600 1"),
   ("Rohg", "1548 1 14 1 3 1 32 1 147 1"),
   ("Runr", "5867 3"),
   ("Samr", "11825 1"),
   ("Shaw", "183 1"),
   ("Shrd", "2385 1 4997 1 1 1 2 2 2 1 35663 6 2 1"),
   ("Sind", "2404 2 40650 10"),
   ("Sinh", "2404 2 5004 1"),
   ("Sogd", "1600 1"),
   ("Sunu", "768 2 1 1 9 1 2 1 28 1 3 1"),
   ("Sylo", "2404 2 128 10"),
   ("Syrc", "771 2 2 2 1 1 21 1 2 3 7 2 1 1 731 1 14 2 2 1 32 1 10 11 26 1 6023 1 1 1"),
   ("Tagb", "5941 2"),
   ("Takr", "2404 2 40650 10"),
   ("Tale", "768 2 5 2 3 1 3379 10"),
   ("Taml", "2385 2 17 2 4980 1 35864 1 27149 1 1 1 55 2"),
   ("Tang", "12272 16 495 1"),
   ("Telu", "2385 2 17 2 4980 1 23 1"),
   ("Tfng", "770 1 1 1 2 1 1 1"),
   ("Tglg", "5941 2"),
   ("Thaa", "1548 1 14 2 2 1 64 10 63368 1 10 1"),
   ("Thai", "700 1 26 1 43 1 45 1"),
   ("Tibt", "12296 4"),
   ("Tirh", "2385 2 17 2 5004 1 35645 10"),
   ("Todr", "769 1 2 1 2 1 9 1 1 1 74 1"),
   ("Toto", "700 1"),
   ("Tutg", "3302 10 4098 1 1 1 35643 6 187 1"),
   ("Yezi", "1548 1 14 1 3 1 64 10"),
   ("Yiii", "12289 2 5 10 2 8 223 1 52837 5")]

/-- The characters that count for the scripts that use them, though they are of another. -/
def scriptRemovals : List (String × String) :=
  [("Zinh",
     String.join
     ["768 15 1 2 1 1 12 1 2 3 7 2 1 2 16 1 2 1 18 1 5 1 4 13 277 2 452 11 26 1 736 2 4989 3 1 ",
      "13 1 7 4 1 6 1 3 2 198 2 54 1 1 1 757 1 3897 4 107 2 53829 1 4186 1"]),
   ("Zyyy",
     String.join
     ["183 1 516 1 10 1 1 3 1 1 9 1 1 1 154 1 663 1 14 1 3 1 32 1 803 2 1941 1 1519 3 71 2 203 ",
      "2 1 1 1229 1 13 1 7 4 1 6 1 3 2 1 820 1 31 1 10 1 2 1 3513 1 24 2 10 1 4 1 1 1 428 16 1 ",
      "3 2 1 1 10 1 13 16 6 1 1 4 4 91 2 3 1 90 2 147 16 32 38 9 1 48 40 56 49 15 12 51 1 88 ",
      "25 10 5 96 31 29441 8 296 10 244 1 160 1 21358 2 261 2 282 5 10 1 45 2 352 3 4 45 3 9 ",
      "417 27 47524 4 5820 18 7902 2"])]

/-- The characters of a script. -/
def ofScript (code : String) : CharSet :=
  CharSet.normalize ((scriptTable.filter (·.1 == code)).map (·.2))

/-- The characters that a list of scripts gives for one of them. -/
def listedFor (table : List (String × String)) (code : String) : CharSet :=
  readRanges 0 (readNumbers ((table.lookup code).getD ""))

/-- The characters of the script with a normalised name. -/
def scriptSet? (name : String) : Option CharSet :=
  (scriptNames.lookup name).map ofScript

/-- The characters that texts of the script with a normalised name use. -/
def scriptExtensionSet? (name : String) : Option CharSet :=
  (scriptNames.lookup name).map fun code =>
    ((ofScript code).union (listedFor scriptAdditions code)).difference
      (listedFor scriptRemovals code)

end LinkWatch.Unicode
