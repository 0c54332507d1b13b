/-!
# Names of characters: supplement

The names of the characters from U+10000 on, in the order of their codes (Unicode 14.0), as
`MapQuery.Text.Name` reads them: scripts of the past, notations and pictures.
-/

namespace MapQuery.Text.Name

/-- The names from U+10000 on. -/
def supplement : String :=
  "=10000;LINEAR B SYLLABLE B008 A;cB038 E;cB028 I;cB061 O;cB010 U;cB001 DA;cB045 DE;cB007 DI
  cB014 DO;cB051 DU;cB057 JA;cB046 JE;=1000D;cB036 JO;cB065 JU;cB077 KA;cB044 KE;cB067 KI;cB070 KO
  cB081 KU;cB080 MA;cB013 ME;cB073 MI;cB015 MO;cB023 MU;cB006 NA;cB024 NE;cB030 NI;cB052 NO
  cB055 NU;cB003 PA;cB072 PE;cB039 PI;cB011 PO;cB050 PU;cB016 QA;cB078 QE;cB021 QI;cB032 QO;=10028
  cB060 RA;cB027 RE;cB053 RI;cB002 RO;cB026 RU;cB031 SA;cB009 SE;cB041 SI;cB012 SO;cB058 SU
  cB059 TA;cB004 TE;cB037 TI;cB005 TO;cB069 TU;cB054 WA;cB075 WE;cB040 WI;cB042 WO;=1003C;cB017 ZA
  cB074 ZE;=1003F;cB020 ZO;cB025 A2;cB043 A3;cB085 AU;cB071 DWE;cB090 DWO;cB048 NWA;cB029 PU2
  cB062 PTE;cB076 RA2;cB033 RA3;cB068 RO2;cB066 TA2;cB087 TWE;cB091 TWO;=10050;bSYMBOL B018;cB019
  cB022;cB034;cB047;cB049;cB056;cB063;cB064;cB079;cB082;cB083;cB086;cB089;=10080;bIDEOGRAM B100 MAN
  cB102 WOMAN;cB104 DEER;cB105 EQUID;cB105F MARE;cB105M STALLION;cB106F EWE;cB106M RAM
  cB107F SHE-GOAT;cB107M HE-GOAT;cB108F SOW;cB108M BOAR;cB109F COW;cB109M BULL;cB120 WHEAT
  cB121 BARLEY;cB122 OLIVE;cB123 SPICE;cB125 CYPERUS;bMONOGRAM B127 KAPO;cB128 KANAKO
  bIDEOGRAM B130 OIL;cB131 WINE;cB132;bMONOGRAM B133 AREPA;cB135 MERI;bIDEOGRAM B140 BRONZE
  cB141 GOLD;cB142;cB145 WOOL;cB146;cB150;cB151 HORN;cB152;cB153;cB154;bMONOGRAM B156 TURO2
  bIDEOGRAM B157;cB158;cB159 CLOTH;cB160;cB161;cB162 GARMENT;cB163 ARMOUR;cB164;cB165;cB166;cB167
  cB168;cB169;cB170;cB171;cB172;cB173 MONTH;cB174;cB176 TREE;cB177;cB178;cB179;cB180;cB181;cB182
  cB183;cB184;cB185;cB189;cB190;cB191 HELMET;cB220 FOOTSTOOL;cB225 BATHTUB;cB230 SPEAR;cB231 ARROW
  cB232;cB233 SWORD;cB234;cB236;cB240 WHEELED CHARIOT;cB241 CHARIOT;cB242 CHARIOT FRAME;cB243 WHEEL
  cB245;cB246;bMONOGRAM B247 DIPTE;bIDEOGRAM B248;cB249;cB251;cB252;cB253;cB254 DART;cB255;cB256
  cB257;cB258;cB259;cVESSEL B155;dB200;dB201;dB202;dB203;dB204;dB205;dB206;dB207;dB208;dB209;dB210
  dB211;dB212;dB213;dB214;dB215;dB216;dB217;dB218;dB219;dB221;dB222;dB226;dB227;dB228;dB229;dB250
  dB305;=10100;AEGEAN WORD SEPARATOR LINE;cDOT;aCHECK MARK;=10107;aNUMBER ONE;bTWO;bTHREE;bFOUR
  bFIVE;bSIX;bSEVEN;bEIGHT;bNINE;bTEN;bTWENTY;bTHIRTY;bFORTY;bFIFTY;bSIXTY;bSEVENTY;bEIGHTY;bNINETY
  bONE HUNDRED;bTWO HUNDRED;bTHREE HUNDRED;bFOUR HUNDRED;bFIVE HUNDRED;bSIX HUNDRED;bSEVEN HUNDRED
  bEIGHT HUNDRED;bNINE HUNDRED;bONE THOUSAND;bTWO THOUSAND;bTHREE THOUSAND;bFOUR THOUSAND
  bFIVE THOUSAND;bSIX THOUSAND;bSEVEN THOUSAND;bEIGHT THOUSAND;bNINE THOUSAND;bTEN THOUSAND
  bTWENTY THOUSAND;bTHIRTY THOUSAND;bFORTY THOUSAND;bFIFTY THOUSAND;bSIXTY THOUSAND
  bSEVENTY THOUSAND;bEIGHTY THOUSAND;bNINETY THOUSAND;=10137;aWEIGHT BASE UNIT;bFIRST SUBUNIT
  bSECOND SUBUNIT;bTHIRD SUBUNIT;bFOURTH SUBUNIT;aDRY MEASURE FIRST SUBUNIT
  aLIQUID MEASURE FIRST SUBUNIT;aMEASURE SECOND SUBUNIT;bTHIRD SUBUNIT
  GREEK ACROPHONIC ATTIC ONE QUARTER;dHALF;dDRACHMA;cFIVE;cFIFTY;cFIVE HUNDRED;dTHOUSAND
  cFIFTY THOUSAND;cFIVE TALENTS;cTEN TALENTS;cFIFTY TALENTS;cONE HUNDRED TALENTS
  cFIVE HUNDRED TALENTS;cONE THOUSAND TALENTS;cFIVE THOUSAND TALENTS;dSTATERS;cTEN STATERS
  cFIFTY STATERS;cONE HUNDRED STATERS;cFIVE HUNDRED STATERS;cONE THOUSAND STATERS
  cTEN THOUSAND STATERS;cFIFTY THOUSAND STATERS;cTEN MNAS;bHERAEUM ONE PLETHRON;bTHESPIAN ONE
  bHERMIONIAN ONE;bEPIDAUREAN TWO;bTHESPIAN TWO;bCYRENAIC TWO DRACHMAS;bEPIDAUREAN TWO DRACHMAS
  bTROEZENIAN FIVE;cTEN;dALTERNATE FORM;bHERMIONIAN TEN;bMESSENIAN TEN;bTHESPIAN TEN;cTHIRTY
  bTROEZENIAN FIFTY;dALTERNATE FORM;bHERMIONIAN FIFTY;bTHESPIAN FIFTY;cONE HUNDRED;cTHREE HUNDRED
  bEPIDAUREAN FIVE HUNDRED;bTROEZENIAN FIVE HUNDRED;bTHESPIAN FIVE HUNDRED;bCARYSTIAN FIVE HUNDRED
  bNAXIAN FIVE HUNDRED;bTHESPIAN ONE THOUSAND;cFIVE THOUSAND;bDELPHIC FIVE MNAS
  bSTRATIAN FIFTY MNAS;aONE HALF SIGN;dALTERNATE FORM;aTWO THIRDS SIGN;aTHREE QUARTERS SIGN
  aYEAR SIGN;aTALENT SIGN;aDRACHMA SIGN;aOBOL SIGN;aTWO OBOLS SIGN;aTHREE OBOLS SIGN
  aFOUR OBOLS SIGN;aFIVE OBOLS SIGN;aMETRETES SIGN;aKYATHOS BASE SIGN;aLITRA SIGN;aOUNKIA SIGN
  aXESTES SIGN;aARTABE SIGN;aAROURA SIGN;aGRAMMA SIGN;aTRYBLION BASE SIGN;aZERO SIGN
  aONE QUARTER SIGN;aSINUSOID SIGN;aINDICTION SIGN;NOMISMA SIGN;=10190;ROMAN SEXTANS SIGN
  aUNCIA SIGN;aSEMUNCIA SIGN;aSEXTULA SIGN;aDIMIDIA SEXTULA SIGN;aSILIQUA SIGN;aDENARIUS SIGN
  aQUINARIUS SIGN;aSESTERTIUS SIGN;aDUPONDIUS SIGN;aAS SIGN;aCENTURIAL SIGN;ASCIA SYMBOL;=101A0
  GREEK SYMBOL TAU RHO;=101D0;PHAISTOS DISC SIGN PEDESTRIAN;cPLUMED HEAD;cTATTOOED HEAD;cCAPTIVE
  cCHILD;cWOMAN;cHELMET;cGAUNTLET;cTIARA;cARROW;cBOW;cSHIELD;cCLUB;cMANACLES;cMATTOCK;cSAW;cLID
  cBOOMERANG;cCARPENTRY PLANE;cDOLIUM;cCOMB;cSLING;cCOLUMN;cBEEHIVE;cSHIP;cHORN;cHIDE;cBULLS LEG
  cCAT;cRAM;cEAGLE;cDOVE;cTUNNY;cBEE;cPLANE TREE;cVINE;cPAPYRUS;cROSETTE;cLILY;cOX BACK;cFLUTE
  cGRATER;cSTRAINER;cSMALL AXE;cWAVY BAND;cCOMBINING OBLIQUE STROKE;=10280;LYCIAN LETTER A;bE;bB
  bBH;bG;bD;bI;bW;bZ;bTH;bJ;bK;bQ;bL;bM;bN;bMM;bNN;bU;bP;bKK;bR;bS;bT;bTT;bAN;bEN;bH;bX;=102A0
  CARIAN LETTER A;bP2;bD;bL;bUUU;bR;bLD;bA2;bQ;bB;bM;bO;bD2;bT;bSH;bSH2;bS;bC-18;bU;bNN;bX;bN;bTT2
  bP;bSS;bI;bE;bUUUU;bK;bK2;bND;bUU;bG;bG2;bST;bST2;bNG;bII;bC-39;bTT;bUUU2;bRR;bMB;bMB2;bMB3;bMB4
  bLD2;bE2;bUUU3;=102E0;COPTIC EPACT THOUSANDS MARK;bDIGIT ONE;cTWO;cTHREE;cFOUR;cFIVE;cSIX;cSEVEN
  cEIGHT;cNINE;bNUMBER TEN;cTWENTY;cTHIRTY;cFORTY;cFIFTY;cSIXTY;cSEVENTY;cEIGHTY;cNINETY
  cONE HUNDRED;cTWO HUNDRED;cTHREE HUNDRED;cFOUR HUNDRED;cFIVE HUNDRED;cSIX HUNDRED;cSEVEN HUNDRED
  cEIGHT HUNDRED;cNINE HUNDRED;=10300;OLD ITALIC LETTER A;cBE;cKE;cDE;cE;cVE;cZE;cHE;cTHE;cI;cKA
  cEL;cEM;cEN;cESH;cO;cPE;cSHE;cKU;cER;cES;cTE;cU;cEKS;cPHE;cKHE;cEF;cERS;cCHE;cII;cUU;cESS
  bNUMERAL ONE;cFIVE;cTEN;cFIFTY;=1032D;bLETTER YE;cNORTHERN TSE;cSOUTHERN TSE;GOTHIC LETTER AHSA
  bBAIRKAN;bGIBA;bDAGS;bAIHVUS;bQAIRTHRA;bIUJA;bHAGL;bTHIUTH;bEIS;bKUSMA;bLAGUS;bMANNA;bNAUTHS;bJER
  bURUS;bPAIRTHRA;bNINETY;bRAIDA;bSAUIL;bTEIWS;bWINJA;bFAIHU;bIGGWS;bHWAIR;bOTHAL;bNINE HUNDRED
  =10350;OLD PERMIC LETTER AN;cBUR;cGAI;cDOI;cE;cZHOI;cDZHOI;cZATA;cDZITA;cI;cKOKE;cLEI;cMENOE
  cNENOE;cVOOI;cPEEI;cREI;cSII;cTAI;cU;cCHERY;cSHOOI;cSHCHOOI;cYRY;cYERU;cO;cOO;cEF;cHA;cTSIU;cVER
  cYER;cYERI;cYAT;cIE;cYU;cYA;cIA;COMBINING OLD PERMIC LETTER AN;dDOI;dZATA;dNENOE;dSII;=10380
  UGARITIC LETTER ALPA;bBETA;bGAMLA;bKHA;bDELTA;bHO;bWO;bZETA;bHOTA;bTET;bYOD;bKAF;bSHIN;bLAMDA
  bMEM;bDHAL;bNUN;bZU;bSAMKA;bAIN;bPU;bSADE;bQOPA;bRASHA;bTHANNA;bGHAIN;bTO;bI;bU;bSSU;=1039F
  aWORD DIVIDER;OLD PERSIAN SIGN A;cI;cU;cKA;cKU;cGA;cGU;cXA;cCA;cJA;cJI;cTA;cTU;cDA;cDI;cDU;cTHA
  cPA;cBA;cFA;cNA;cNU;cMA;cMI;cMU;cYA;cVA;cVI;cRA;cRU;cLA;cSA;cZA;cSHA;cSSA;cHA;=103C8;cAURAMAZDAA
  cAURAMAZDAA-2;cAURAMAZDAAHA;cXSHAAYATHIYA;cDAHYAAUSH;cDAHYAAUSH-2;cBAGA;cBUUMISH;bWORD DIVIDER
  bNUMBER ONE;cTWO;cTEN;cTWENTY;cHUNDRED;=10400;DESERET CAPITAL LETTER LONG I;dE;dA;dAH;dO;dOO
  cSHORT I;dE;dA;dAH;dO;dOO;cAY;cOW;cWU;cYEE;cH;cPEE;cBEE;cTEE;cDEE;cCHEE;cJEE;cKAY;cGAY;cEF;cVEE
  cETH;cTHEE;cES;cZEE;cESH;cZHEE;cER;cEL;cEM;cEN;cENG;cOI;cEW;aSMALL LETTER LONG I;dE;dA;dAH;dO;dOO
  cSHORT I;dE;dA;dAH;dO;dOO;cAY;cOW;cWU;cYEE;cH;cPEE;cBEE;cTEE;cDEE;cCHEE;cJEE;cKAY;cGAY;cEF;cVEE
  cETH;cTHEE;cES;cZEE;cESH;cZHEE;cER;cEL;cEM;cEN;cENG;cOI;cEW;SHAVIAN LETTER PEEP;bTOT;bKICK;bFEE
  bTHIGH;bSO;bSURE;bCHURCH;bYEA;bHUNG;bBIB;bDEAD;bGAG;bVOW;bTHEY;bZOO;bMEASURE;bJUDGE;bWOE;bHA-HA
  bLOLL;bMIME;bIF;bEGG;bASH;bADO;bON;bWOOL;bOUT;bAH;bROAR;bNUN;bEAT;bAGE;bICE;bUP;bOAK;bOOZE;bOIL
  bAWE;bARE;bOR;bAIR;bERR;bARRAY;bEAR;bIAN;bYEW;OSMANYA LETTER ALEF;bBA;bTA;bJA;bXA;bKHA;bDEEL;bRA
  bSA;bSHIIN;bDHA;bCAYN;bGA;bFA;bQAAF;bKAAF;bLAAN;bMIIN;bNUUN;bWAW;bHA;bYA;bA;bE;bI;bO;bU;bAA;bEE
  bOO;=104A0;aDIGIT ZERO;bONE;bTWO;bTHREE;bFOUR;bFIVE;bSIX;bSEVEN;bEIGHT;bNINE;=104B0
  OSAGE CAPITAL LETTER A;cAI;cAIN;cAH;cBRA;cCHA;cEHCHA;cE;cEIN;cHA;cHYA;cI;cKA;cEHKA;cKYA;cLA;cMA
  cNA;cO;cOIN;cPA;cEHPA;cSA;cSHA;cTA;cEHTA;cTSA;cEHTSA;cTSHA;cDHA;cU;cWA;cKHA;cGHA;cZA;cZHA;=104D8
  aSMALL LETTER A;cAI;cAIN;cAH;cBRA;cCHA;cEHCHA;cE;cEIN;cHA;cHYA;cI;cKA;cEHKA;cKYA;cLA;cMA;cNA;cO
  cOIN;cPA;cEHPA;cSA;cSHA;cTA;cEHTA;cTSA;cEHTSA;cTSHA;cDHA;cU;cWA;cKHA;cGHA;cZA;cZHA;=10500
  ELBASAN LETTER A;bBE;bCE;bCHE;bDE;bNDE;bDHE;bEI;bE;bFE;bGE;bGJE;bHE;bI;bJE;bKE;bLE;bLLE;bME;bNE
  bNA;bNJE;bO;bPE;bQE;bRE;bRRE;bSE;bSHE;bTE;bTHE;bU;bVE;bXE;bY;bZE;bZHE;bGHE;bGHAMMA;bKHE;=10530
  CAUCASIAN ALBANIAN LETTER ALT;cBET;cGIM;cDAT;cEB;cZARL;cEYN;cZHIL;cTAS;cCHA;cYOWD;cZHA;cIRB;cSHA
  cLAN;cINYA;cXEYN;cDYAN;cCAR;cJHOX;cKAR;cLYIT;cHEYT;cQAY;cAOR;cCHOY;cCHI;cCYAY;cMAQ;cQAR;cNOWC
  cDZYAY;cSHAK;cJAYN;cON;cTYAY;cFAM;cDZAY;cCHAT;cPEN;cGHEYS;cRAT;cSEYK;cVEYZ;cTIWR;cSHOY;cIWN;cCYAW
  cCAYN;cYAYD;cPIWR;cKIW;=1056F;bCITATION MARK;VITHKUQI CAPITAL LETTER A;cBBE;cBE;cCE;cCHE;cDE;cDHE
  cEI;cE;cFE;cGA;=1057C;cHA;cHHA;cI;cIJE;cJE;cKA;cLA;cLLA;cME;cNE;cNJE;cO;cPE;cQA;cRE;=1058C;cSE
  cSHE;cTE;cTHE;cU;cVE;cXE;=10594;cY;cZE;=10597;aSMALL LETTER A;cBBE;cBE;cCE;cCHE;cDE;cDHE;cEI;cE
  cFE;cGA;=105A3;cHA;cHHA;cI;cIJE;cJE;cKA;cLA;cLLA;cME;cNE;cNJE;cO;cPE;cQA;cRE;=105B3;cSE;cSHE;cTE
  cTHE;cU;cVE;cXE;=105BB;cY;cZE;=10600;LINEAR A SIGN AB001;cAB002;cAB003;cAB004;cAB005;cAB006
  cAB007;cAB008;cAB009;cAB010;cAB011;cAB013;cAB016;cAB017;cAB020;cAB021;cAB021F;cAB021M;cAB022
  cAB022F;cAB022M;cAB023;cAB023M;cAB024;cAB026;cAB027;cAB028;cA028B;cAB029;cAB030;cAB031;cAB034
  cAB037;cAB038;cAB039;cAB040;cAB041;cAB044;cAB045;cAB046;cAB047;cAB048;cAB049;cAB050;cAB051;cAB053
  cAB054;cAB055;cAB056;cAB057;cAB058;cAB059;cAB060;cAB061;cAB065;cAB066;cAB067;cAB069;cAB070;cAB073
  cAB074;cAB076;cAB077;cAB078;cAB079;cAB080;cAB081;cAB082;cAB085;cAB086;cAB087;cA100-102;cAB118
  cAB120;cA120B;cAB122;cAB123;cAB131A;cAB131B;cA131C;cAB164;cAB171;cAB180;cAB188;cAB191;cA301;cA302
  cA303;cA304;cA305;cA306;cA307;cA308;cA309A;cA309B;cA309C;cA310;cA311;cA312;cA313A;cA313B;cA313C
  cA314;cA315;cA316;cA317;cA318;cA319;cA320;cA321;cA322;cA323;cA324;cA325;cA326;cA327;cA328;cA329
  cA330;cA331;cA332;cA333;cA334;cA335;cA336;cA337;cA338;cA339;cA340;cA341;cA342;cA343;cA344;cA345
  cA346;cA347;cA348;cA349;cA350;cA351;cA352;cA353;cA354;cA355;cA356;cA357;cA358;cA359;cA360;cA361
  cA362;cA363;cA364;cA365;cA366;cA367;cA368;cA369;cA370;cA371;cA400-VAS;cA401-VAS;cA402-VAS
  cA403-VAS;cA404-VAS;cA405-VAS;cA406-VAS;cA407-VAS;cA408-VAS;cA409-VAS;cA410-VAS;cA411-VAS
  cA412-VAS;cA413-VAS;cA414-VAS;cA415-VAS;cA416-VAS;cA417-VAS;cA418-VAS;cA501;cA502;cA503;cA504
  cA505;cA506;cA508;cA509;cA510;cA511;cA512;cA513;cA515;cA516;cA520;cA521;cA523;cA524;cA525;cA526
  cA527;cA528;cA529;cA530;cA531;cA532;cA534;cA535;cA536;cA537;cA538;cA539;cA540;cA541;cA542;cA545
  cA547;cA548;cA549;cA550;cA551;cA552;cA553;cA554;cA555;cA556;cA557;cA559;cA563;cA564;cA565;cA566
  cA568;cA569;cA570;cA571;cA572;cA573;cA574;cA575;cA576;cA577;cA578;cA579;cA580;cA581;cA582;cA583
  cA584;cA585;cA586;cA587;cA588;cA589;cA591;cA592;cA594;cA595;cA596;cA598;cA600;cA601;cA602;cA603
  cA604;cA606;cA608;cA609;cA610;cA611;cA612;cA613;cA614;cA615;cA616;cA617;cA618;cA619;cA620;cA621
  cA622;cA623;cA624;cA626;cA627;cA628;cA629;cA634;cA637;cA638;cA640;cA642;cA643;cA644;cA645;cA646
  cA648;cA649;cA651;cA652;cA653;cA654;cA655;cA656;cA657;cA658;cA659;cA660;cA661;cA662;cA663;cA664
  =10740;cA701 A;cA702 B;cA703 D;cA704 E;cA705 F;cA706 H;cA707 J;cA708 K;cA709 L;cA709-2 L2
  cA709-3 L3;cA709-4 L4;cA709-6 L6;cA710 W;cA711 X;cA712 Y;cA713 OMEGA;cA714 ABB;cA715 BB;cA717 DD
  cA726 EYYY;cA732 JE;=10760;cA800;cA801;cA802;cA803;cA804;cA805;cA806;cA807;=10780
  MODIFIER LETTER SMALL CAPITAL AA;bSUPERSCRIPT TRIANGULAR COLON;cHALF TRIANGULAR COLON;bSMALL AE
  cCAPITAL B;cB WITH HOOK;=10787;cDZ DIGRAPH;eWITH RETROFLEX HOOK;fCURL;cDEZH DIGRAPH;cD WITH TAIL
  eHOOK;fAND TAIL;cREVERSED E;cCLOSED REVERSED OPEN E;cFENG DIGRAPH;cRAMS HORN;cCAPITAL G
  cG WITH HOOK;cCAPITAL G WITH HOOK;cH WITH STROKE;cCAPITAL H;cHENG WITH HOOK
  cDOTLESS J WITH STROKE AND HOOK;cLS DIGRAPH;cLZ DIGRAPH;cL WITH BELT;cCAPITAL L WITH BELT
  cL WITH RETROFLEX HOOK AND BELT;cLEZH;dWITH RETROFLEX HOOK;cTURNED Y;eWITH BELT;cO WITH STROKE
  cCAPITAL OE;cCLOSED OMEGA;cQ;cTURNED R WITH LONG LEG;hAND RETROFLEX HOOK;cR WITH TAIL;eFISHHOOK
  cCAPITAL R;cTC DIGRAPH WITH CURL;cTS DIGRAPH;eWITH RETROFLEX HOOK;cTESH DIGRAPH
  cT WITH RETROFLEX HOOK;cV WITH RIGHT HOOK;=107B2;cCAPITAL Y;bGLOTTAL STOP WITH STROKE
  bREVERSED GLOTTAL STOP WITH STROKE;bBILABIAL CLICK;bDENTAL CLICK;bLATERAL CLICK;bALVEOLAR CLICK
  bRETROFLEX CLICK WITH RETROFLEX HOOK;bSMALL S WITH CURL;=10800;CYPRIOT SYLLABLE A;bE;bI;bO;bU;bJA
  =10808;bJO;=1080A;bKA;bKE;bKI;bKO;bKU;bLA;bLE;bLI;bLO;bLU;bMA;bME;bMI;bMO;bMU;bNA;bNE;bNI;bNO;bNU
  bPA;bPE;bPI;bPO;bPU;bRA;bRE;bRI;bRO;bRU;bSA;bSE;bSI;bSO;bSU;bTA;bTE;bTI;bTO;bTU;bWA;bWE;bWI;bWO
  =10837;bXA;bXE;=1083C;bZA;=1083F;bZO;IMPERIAL ARAMAIC LETTER ALEPH;cBETH;cGIMEL;cDALETH;cHE;cWAW
  cZAYIN;cHETH;cTETH;cYODH;cKAPH;cLAMEDH;cMEM;cNUN;cSAMEKH;cAYIN;cPE;cSADHE;cQOPH;cRESH;cSHIN;cTAW
  =10857;bSECTION SIGN;bNUMBER ONE;cTWO;cTHREE;cTEN;cTWENTY;cONE HUNDRED;dTHOUSAND;cTEN THOUSAND
  PALMYRENE LETTER ALEPH;bBETH;bGIMEL;bDALETH;bHE;bWAW;bZAYIN;bHETH;bTETH;bYODH;bKAPH;bLAMEDH;bMEM
  bFINAL NUN;bNUN;bSAMEKH;bAYIN;bPE;bSADHE;bQOPH;bRESH;bSHIN;bTAW;aLEFT-POINTING FLEURON
  aRIGHT-POINTING FLEURON;aNUMBER ONE;bTWO;bTHREE;bFOUR;bFIVE;bTEN;bTWENTY
  NABATAEAN LETTER FINAL ALEPH;bALEPH;bFINAL BETH;bBETH;bGIMEL;bDALETH;bFINAL HE;bHE;bWAW;bZAYIN
  bHETH;bTETH;bFINAL YODH;bYODH;bFINAL KAPH;bKAPH;bFINAL LAMEDH;bLAMEDH;bFINAL MEM;bMEM;bFINAL NUN
  bNUN;bSAMEKH;bAYIN;bPE;bSADHE;bQOPH;bRESH;bFINAL SHIN;bSHIN;bTAW;=108A7;aNUMBER ONE;bTWO;bTHREE
  bFOUR;aCRUCIFORM NUMBER FOUR;aNUMBER FIVE;bTEN;bTWENTY;bONE HUNDRED;=108E0;HATRAN LETTER ALEPH
  bBETH;bGIMEL;bDALETH-RESH;bHE;bWAW;bZAYN;bHETH;bTETH;bYODH;bKAPH;bLAMEDH;bMEM;bNUN;bSAMEKH;bAYN
  bPE;bSADHE;bQOPH;=108F4;bSHIN;bTAW;=108FB;aNUMBER ONE;bFIVE;bTEN;bTWENTY;bONE HUNDRED
  PHOENICIAN LETTER ALF;bBET;bGAML;bDELT;bHE;bWAU;bZAI;bHET;bTET;bYOD;bKAF;bLAMD;bMEM;bNUN;bSEMK
  bAIN;bPE;bSADE;bQOF;bROSH;bSHIN;bTAU;aNUMBER ONE;bTEN;bTWENTY;bONE HUNDRED;bTWO;bTHREE;=1091F
  aWORD SEPARATOR;LYDIAN LETTER A;bB;bG;bD;bE;bV;bI;bY;bK;bL;bM;bN;bO;bR;bSS;bT;bU;bF;bQ;bS;bTT;bAN
  bEN;bLY;bNN;bC;=1093F;aTRIANGULAR MARK;=10980;MEROITIC HIEROGLYPHIC LETTER A;cE;cI;cO;cYA;cWA;cBA
  cBA-2;cPA;cMA;cNA;cNA-2;cNE;cNE-2;cRA;cRA-2;cLA;cKHA;cHHA;cSA;cSA-2;cSE;cKA;cQA;cTA;cTA-2;cTE
  cTE-2;cTO;cDA;bSYMBOL VIDJ;cVIDJ-2;aCURSIVE LETTER A;cE;cI;cO;cYA;cWA;cBA;cPA;cMA;cNA;cNE;cRA;cLA
  cKHA;cHHA;cSA;cARCHAIC SA;cSE;cKA;cQA;cTA;cTE;cTO;cDA;=109BC;bFRACTION ELEVEN TWELFTHS;cONE HALF
  bLOGOGRAM RMT;cIMN;bNUMBER ONE;cTWO;cTHREE;cFOUR;cFIVE;cSIX;cSEVEN;cEIGHT;cNINE;cTEN;cTWENTY
  cTHIRTY;cFORTY;cFIFTY;cSIXTY;cSEVENTY;=109D2;cONE HUNDRED;cTWO HUNDRED;cTHREE HUNDRED
  cFOUR HUNDRED;cFIVE HUNDRED;cSIX HUNDRED;cSEVEN HUNDRED;cEIGHT HUNDRED;cNINE HUNDRED
  cONE THOUSAND;cTWO THOUSAND;cTHREE THOUSAND;cFOUR THOUSAND;cFIVE THOUSAND;cSIX THOUSAND
  cSEVEN THOUSAND;cEIGHT THOUSAND;cNINE THOUSAND;cTEN THOUSAND;cTWENTY THOUSAND;cTHIRTY THOUSAND
  cFORTY THOUSAND;cFIFTY THOUSAND;cSIXTY THOUSAND;cSEVENTY THOUSAND;cEIGHTY THOUSAND
  cNINETY THOUSAND;cONE HUNDRED THOUSAND;cTWO HUNDRED THOUSAND;cTHREE HUNDRED THOUSAND
  cFOUR HUNDRED THOUSAND;cFIVE HUNDRED THOUSAND;cSIX HUNDRED THOUSAND;cSEVEN HUNDRED THOUSAND
  cEIGHT HUNDRED THOUSAND;cNINE HUNDRED THOUSAND;bFRACTION ONE TWELFTH;cTWO TWELFTHS
  cTHREE TWELFTHS;cFOUR TWELFTHS;cFIVE TWELFTHS;cSIX TWELFTHS;cSEVEN TWELFTHS;cEIGHT TWELFTHS
  cNINE TWELFTHS;cTEN TWELFTHS;KHAROSHTHI LETTER A;aVOWEL SIGN I;cU;cVOCALIC R;=10A05;cE;cO;=10A0C
  bLENGTH MARK;aSIGN DOUBLE RING BELOW;bANUSVARA;bVISARGA;aLETTER KA;bKHA;bGA;bGHA;=10A15;bCA;bCHA
  bJA;=10A19;bNYA;bTTA;bTTHA;bDDA;bDDHA;bNNA;bTA;bTHA;bDA;bDHA;bNA;bPA;bPHA;bBA;bBHA;bMA;bYA;bRA
  bLA;bVA;bSHA;bSSA;bSA;bZA;bHA;bKKA;bTTTHA;bTTTA;bVHA;=10A38;aSIGN BAR ABOVE;bCAUDA;bDOT BELOW
  =10A3F;aVIRAMA;aDIGIT ONE;bTWO;bTHREE;bFOUR;aNUMBER TEN;bTWENTY;bONE HUNDRED;cTHOUSAND
  aFRACTION ONE HALF;=10A50;aPUNCTUATION DOT;bSMALL CIRCLE;bCIRCLE;bCRESCENT BAR;bMANGALAM;bLOTUS
  bDANDA;bDOUBLE DANDA;bLINES;=10A60;OLD SOUTH ARABIAN LETTER HE;dLAMEDH;dHETH;dMEM;dQOPH;dWAW
  dSHIN;dRESH;dBETH;dTAW;dSAT;dKAPH;dNUN;dKHETH;dSADHE;dSAMEKH;dFE;dALEF;dAYN;dDHADHE;dGIMEL
  dDALETH;dGHAYN;dTETH;dZAYN;dDHALETH;dYODH;dTHAW;dTHETH;cNUMBER ONE;dFIFTY;cNUMERIC INDICATOR
  aNORTH ARABIAN LETTER HEH;dLAM;dHAH;dMEEM;dQAF;dWAW;dES-2;dREH;dBEH;dTEH;dES-1;dKAF;dNOON;dKHAH
  dSAD;dES-3;dFEH;dALEF;dAIN;dDAD;dGEEM;dDAL;dGHAIN;dTAH;dZAIN;dTHAL;dYEH;dTHEH;dZAH;cNUMBER ONE
  dTEN;dTWENTY;=10AC0;MANICHAEAN LETTER ALEPH;bBETH;bBHETH;bGIMEL;bGHIMEL;bDALETH;bHE;bWAW;aSIGN UD
  aLETTER ZAYIN;bZHAYIN;bJAYIN;bJHAYIN;bHETH;bTETH;bYODH;bKAPH;bXAPH;bKHAPH;bLAMEDH;bDHAMEDH
  bTHAMEDH;bMEM;bNUN;bSAMEKH;bAYIN;bAAYIN;bPE;bFE;bSADHE;bQOPH;bXOPH;bQHOPH;bRESH;bSHIN;bSSHIN;bTAW
  aABBREVIATION MARK ABOVE;cBELOW;=10AEB;aNUMBER ONE;bFIVE;bTEN;bTWENTY;bONE HUNDRED
  aPUNCTUATION STAR;bFLEURON;bDOUBLE DOT WITHIN DOT;bDOT WITHIN DOT;bDOT;bTWO DOTS;bLINE FILLER
  =10B00;AVESTAN LETTER A;bAA;bAO;bAAO;bAN;bAAN;bAE;bAEE;bE;bEE;bO;bOO;bI;bII;bU;bUU;bKE;bXE;bXYE
  bXVE;bGE;bGGE;bGHE;bCE;bJE;bTE;bTHE;bDE;bDHE;bTTE;bPE;bFE;bBE;bBHE;bNGE;bNGYE;bNGVE;bNE;bNYE;bNNE
  bME;bHME;bYYE;bYE;bVE;bRE;bLE;bSE;bZE;bSHE;bZHE;bSHYE;bSSHE;bHE;=10B39;aABBREVIATION MARK
  TINY TWO DOTS OVER ONE DOT PUNCTUATION;SMALL TWO DOTS OVER ONE DOT PUNCTUATION
  LARGE TWO DOTS OVER ONE DOT PUNCTUATION;aONE DOT OVER TWO DOTS PUNCTUATION
  aTWO RINGS OVER ONE RING PUNCTUATION;aONE RING OVER TWO RINGS PUNCTUATION
  INSCRIPTIONAL PARTHIAN LETTER ALEPH;cBETH;cGIMEL;cDALETH;cHE;cWAW;cZAYIN;cHETH;cTETH;cYODH;cKAPH
  cLAMEDH;cMEM;cNUN;cSAMEKH;cAYIN;cPE;cSADHE;cQOPH;cRESH;cSHIN;cTAW;=10B58;bNUMBER ONE;cTWO;cTHREE
  cFOUR;cTEN;cTWENTY;cONE HUNDRED;dTHOUSAND;aPAHLAVI LETTER ALEPH;cBETH;cGIMEL;cDALETH;cHE
  cWAW-AYIN-RESH;cZAYIN;cHETH;cTETH;cYODH;cKAPH;cLAMEDH;cMEM-QOPH;cNUN;cSAMEKH;cPE;cSADHE;cSHIN
  cTAW;=10B78;bNUMBER ONE;cTWO;cTHREE;cFOUR;cTEN;cTWENTY;cONE HUNDRED;dTHOUSAND
  PSALTER PAHLAVI LETTER ALEPH;cBETH;cGIMEL;cDALETH;cHE;cWAW-AYIN-RESH;cZAYIN;cHETH;cYODH;cKAPH
  cLAMEDH;cMEM-QOPH;cNUN;cSAMEKH;cPE;cSADHE;cSHIN;cTAW;=10B99;bSECTION MARK;bTURNED SECTION MARK
  bFOUR DOTS WITH CROSS;eDOT;=10BA9;bNUMBER ONE;cTWO;cTHREE;cFOUR;cTEN;cTWENTY;cONE HUNDRED;=10C00
  OLD TURKIC LETTER ORKHON A;cYENISEI A;dAE;cORKHON I;cYENISEI I;dE;cORKHON O;dOE;cYENISEI OE
  cORKHON AB;cYENISEI AB;cORKHON AEB;cYENISEI AEB;cORKHON AG;cYENISEI AG;cORKHON AEG;cYENISEI AEG
  cORKHON AD;cYENISEI AD;cORKHON AED;dEZ;cYENISEI EZ;cORKHON AY;cYENISEI AY;cORKHON AEY
  cYENISEI AEY;cORKHON AEK;cYENISEI AEK;cORKHON OEK;cYENISEI OEK;cORKHON AL;cYENISEI AL;cORKHON AEL
  dELT;dEM;dAN;dAEN;cYENISEI AEN;cORKHON ENT;cYENISEI ENT;cORKHON ENC;cYENISEI ENC;cORKHON ENY
  cYENISEI ENY;dANG;cORKHON ENG;cYENISEI AENG;cORKHON EP;dOP;dIC;dEC;cYENISEI EC;cORKHON AQ
  cYENISEI AQ;cORKHON IQ;cYENISEI IQ;cORKHON OQ;cYENISEI OQ;cORKHON AR;cYENISEI AR;cORKHON AER;dAS
  dAES;dASH;cYENISEI ASH;cORKHON ESH;cYENISEI ESH;cORKHON AT;cYENISEI AT;cORKHON AET;cYENISEI AET
  cORKHON OT;dBASH;=10C80;aHUNGARIAN CAPITAL LETTER A;dAA;dEB;dAMB;dEC;dENC;dECS;dED;dAND;dE
  dCLOSE E;dEE;dEF;dEG;dEGY;dEH;dI;dII;dEJ;dEK;dAK;dUNK;dEL;dELY;dEM;dEN;dENY;dO;dOO;dNIKOLSBURG OE
  dRUDIMENTA OE;dOEE;dEP;dEMP;dER;dSHORT ER;dES;dESZ;dET;dENT;dETY;dECH;dU;dUU;dNIKOLSBURG UE
  dRUDIMENTA UE;dEV;dEZ;dEZS;dENT-SHAPED SIGN;dUS;=10CC0;bSMALL LETTER A;dAA;dEB;dAMB;dEC;dENC;dECS
  dED;dAND;dE;dCLOSE E;dEE;dEF;dEG;dEGY;dEH;dI;dII;dEJ;dEK;dAK;dUNK;dEL;dELY;dEM;dEN;dENY;dO;dOO
  dNIKOLSBURG OE;dRUDIMENTA OE;dOEE;dEP;dEMP;dER;dSHORT ER;dES;dESZ;dET;dENT;dETY;dECH;dU;dUU
  dNIKOLSBURG UE;dRUDIMENTA UE;dEV;dEZ;dEZS;dENT-SHAPED SIGN;dUS;=10CFA;bNUMBER ONE;cFIVE;cTEN
  cFIFTY;cONE HUNDRED;dTHOUSAND;HANIFI ROHINGYA LETTER A;cBA;cPA;cTA;cTTA;cJA;cCA;cHA;cKHA;cFA;cDA
  cDDA;cRA;cRRA;cZA;cSA;cSHA;cKA;cGA;cLA;cMA;cNA;cWA;cKINNA WA;cYA;cKINNA YA;cNGA;cNYA;cVA;bVOWEL A
  cI;cU;cE;cO;bMARK SAKIN;cNA KHONNA;bSIGN HARBAHAY;cTAHALA;cTANA;cTASSI;=10D30;bDIGIT ZERO;cONE
  cTWO;cTHREE;cFOUR;cFIVE;cSIX;cSEVEN;cEIGHT;cNINE;=10E60;RUMI DIGIT ONE;bTWO;bTHREE;bFOUR;bFIVE
  bSIX;bSEVEN;bEIGHT;bNINE;aNUMBER TEN;bTWENTY;bTHIRTY;bFORTY;bFIFTY;bSIXTY;bSEVENTY;bEIGHTY
  bNINETY;bONE HUNDRED;bTWO HUNDRED;bTHREE HUNDRED;bFOUR HUNDRED;bFIVE HUNDRED;bSIX HUNDRED
  bSEVEN HUNDRED;bEIGHT HUNDRED;bNINE HUNDRED;aFRACTION ONE HALF;cQUARTER;cTHIRD;bTWO THIRDS;=10E80
  YEZIDI LETTER ELIF;bBE;bPE;bPHE;bTHE;bSE;bCIM;bCHIM;bCHHIM;bHHA;bXA;bDAL;bZAL;bRA;bRHA;bZA;bJA
  bSIN;bSHIN;bSAD;bDAD;bTA;bZE;bEYN;bXHEYN;bFA;bVA;cALTERNATE FORM;bQAF;bKAF;bKHAF;bGAF;bLAM;bMIM
  bNUN;bUM;bWAW;bOW;bEW;bHAY;bYOT;bET;=10EAB;aCOMBINING HAMZA MARK;bMADDA MARK;aHYPHENATION MARK
  =10EB0;aLETTER LAM WITH DOT ABOVE;bYOT WITH CIRCUMFLEX ABOVE;=10F00;OLD SOGDIAN LETTER ALEPH
  cFINAL ALEPH;cBETH;cFINAL BETH;cGIMEL;cHE;cFINAL HE;cWAW;cZAYIN;cHETH;cYODH;cKAPH;cLAMEDH;cMEM
  cNUN;cFINAL NUN;eWITH VERTICAL TAIL;cSAMEKH;cAYIN;cALTERNATE AYIN;cPE;cSADHE;cFINAL SADHE
  eWITH VERTICAL TAIL;cRESH-AYIN-DALETH;cSHIN;cTAW;cFINAL TAW;eWITH VERTICAL TAIL;bNUMBER ONE;cTWO
  cTHREE;cFOUR;cFIVE;cTEN;cTWENTY;cTHIRTY;cONE HUNDRED;bFRACTION ONE HALF;bLIGATURE AYIN-DALETH
  =10F30;SOGDIAN LETTER ALEPH;bBETH;bGIMEL;bHE;bWAW;bZAYIN;bHETH;bYODH;bKAPH;bLAMEDH;bMEM;bNUN
  bSAMEKH;bAYIN;bPE;bSADHE;bRESH-AYIN;bSHIN;bTAW;bFETH;bLESH;aINDEPENDENT SHIN;aCOMBINING DOT BELOW
  bTWO DOTS BELOW;bDOT ABOVE;bTWO DOTS ABOVE;bCURVE ABOVE;cBELOW;bHOOK ABOVE;cBELOW
  bLONG HOOK BELOW;bRESH BELOW;bSTROKE BELOW;aNUMBER ONE;bTEN;bTWENTY;bONE HUNDRED
  aPUNCTUATION TWO VERTICAL BARS;eWITH DOTS;bCIRCLE WITH DOT;bTWO CIRCLES WITH DOTS
  bHALF CIRCLE WITH DOT;=10F70;OLD UYGHUR LETTER ALEPH;cBETH;cGIMEL-HETH;cWAW;cZAYIN;cFINAL HETH
  cYODH;cKAPH;cLAMEDH;cMEM;cNUN;cSAMEKH;cPE;cSADHE;cRESH;cSHIN;cTAW;cLESH;bCOMBINING DOT ABOVE
  dBELOW;cTWO DOTS ABOVE;eBELOW;bPUNCTUATION BAR;cTWO BARS;dDOTS;cFOUR DOTS;=10FB0
  CHORASMIAN LETTER ALEPH;bSMALL ALEPH;bBETH;bGIMEL;bDALETH;bHE;bWAW;bCURLED WAW;bZAYIN;bHETH;bYODH
  bKAPH;bLAMEDH;bMEM;bNUN;bSAMEKH;bAYIN;bPE;bRESH;bSHIN;bTAW;aNUMBER ONE;bTWO;bTHREE;bFOUR;bTEN
  bTWENTY;bONE HUNDRED;=10FE0;ELYMAIC LETTER ALEPH;bBETH;bGIMEL;bDALETH;bHE;bWAW;bZAYIN;bHETH;bTETH
  bYODH;bKAPH;bLAMEDH;bMEM;bNUN;bSAMEKH;bAYIN;bPE;bSADHE;bQOPH;bRESH;bSHIN;bTAW
  aLIGATURE ZAYIN-YODH;=11000;BRAHMI SIGN CANDRABINDU;bANUSVARA;bVISARGA;bJIHVAMULIYA;bUPADHMANIYA
  aLETTER A;bAA;bI;bII;bU;bUU;bVOCALIC R;cRR;cL;cLL;bE;bAI;bO;bAU;bKA;bKHA;bGA;bGHA;bNGA;bCA;bCHA
  bJA;bJHA;bNYA;bTTA;bTTHA;bDDA;bDDHA;bNNA;bTA;bTHA;bDA;bDHA;bNA;bPA;bPHA;bBA;bBHA;bMA;bYA;bRA;bLA
  bVA;bSHA;bSSA;bSA;bHA;bLLA;bOLD TAMIL LLLA;dRRA;dNNNA;aVOWEL SIGN AA;cBHATTIPROLU AA;cI;cII;cU
  cUU;cVOCALIC R;dRR;dL;dLL;cE;cAI;cO;cAU;aVIRAMA;aDANDA;aDOUBLE DANDA;aPUNCTUATION DOT;bDOUBLE DOT
  bLINE;bCRESCENT BAR;bLOTUS;=11052;aNUMBER ONE;bTWO;bTHREE;bFOUR;bFIVE;bSIX;bSEVEN;bEIGHT;bNINE
  bTEN;bTWENTY;bTHIRTY;bFORTY;bFIFTY;bSIXTY;bSEVENTY;bEIGHTY;bNINETY;bONE HUNDRED;cTHOUSAND
  aDIGIT ZERO;bONE;bTWO;bTHREE;bFOUR;bFIVE;bSIX;bSEVEN;bEIGHT;bNINE;aSIGN OLD TAMIL VIRAMA
  aLETTER OLD TAMIL SHORT E;eO;aVOWEL SIGN OLD TAMIL SHORT E;fO;aLETTER OLD TAMIL LLA;=1107F
  aNUMBER JOINER;KAITHI SIGN CANDRABINDU;bANUSVARA;bVISARGA;aLETTER A;bAA;bI;bII;bU;bUU;bE;bAI;bO
  bAU;bKA;bKHA;bGA;bGHA;bNGA;bCA;bCHA;bJA;bJHA;bNYA;bTTA;bTTHA;bDDA;bDDDHA;bDDHA;bRHA;bNNA;bTA;bTHA
  bDA;bDHA;bNA;bPA;bPHA;bBA;bBHA;bMA;bYA;bRA;bLA;bVA;bSHA;bSSA;bSA;bHA;aVOWEL SIGN AA;cI;cII;cU;cUU
  cE;cAI;cO;cAU;aSIGN VIRAMA;bNUKTA;aABBREVIATION SIGN;aENUMERATION SIGN;aNUMBER SIGN;aSECTION MARK
  aDOUBLE SECTION MARK;aDANDA;aDOUBLE DANDA;aVOWEL SIGN VOCALIC R;=110CD;aNUMBER SIGN ABOVE;=110D0
  SORA SOMPENG LETTER SAH;cTAH;cBAH;cCAH;cDAH;cGAH;cMAH;cNGAH;cLAH;cNAH;cVAH;cPAH;cYAH;cRAH;cHAH
  cKAH;cJAH;cNYAH;cAH;cEEH;cIH;cUH;cOH;cEH;cMAE;=110F0;bDIGIT ZERO;cONE;cTWO;cTHREE;cFOUR;cFIVE
  cSIX;cSEVEN;cEIGHT;cNINE;=11100;CHAKMA SIGN CANDRABINDU;bANUSVARA;bVISARGA;aLETTER AA;bI;bU;bE
  bKAA;bKHAA;bGAA;bGHAA;bNGAA;bCAA;bCHAA;bJAA;bJHAA;bNYAA;bTTAA;bTTHAA;bDDAA;bDDHAA;bNNAA;bTAA
  bTHAA;bDAA;bDHAA;bNAA;bPAA;bPHAA;bBAA;bBHAA;bMAA;bYYAA;bYAA;bRAA;bLAA;bWAA;bSAA;bHAA
  aVOWEL SIGN A;cI;cII;cU;cUU;cE;cAI;cO;cAU;cOI;aO MARK;aAU MARK;aVIRAMA;aMAAYYAA;=11136
  aDIGIT ZERO;bONE;bTWO;bTHREE;bFOUR;bFIVE;bSIX;bSEVEN;bEIGHT;bNINE;aSECTION MARK;aDANDA
  aDOUBLE DANDA;aQUESTION MARK;aLETTER LHAA;aVOWEL SIGN AA;cEI;aLETTER VAA;=11150;MAHAJANI LETTER A
  bI;bU;bE;bO;bKA;bKHA;bGA;bGHA;bCA;bCHA;bJA;bJHA;bNYA;bTTA;bTTHA;bDDA;bDDHA;bNNA;bTA;bTHA;bDA;bDHA
  bNA;bPA;bPHA;bBA;bBHA;bMA;bRA;bLA;bVA;bSA;bHA;bRRA;aSIGN NUKTA;aABBREVIATION SIGN;aSECTION MARK
  aLIGATURE SHRI;=11180;SHARADA SIGN CANDRABINDU;bANUSVARA;bVISARGA;aLETTER A;bAA;bI;bII;bU;bUU
  bVOCALIC R;cRR;cL;cLL;bE;bAI;bO;bAU;bKA;bKHA;bGA;bGHA;bNGA;bCA;bCHA;bJA;bJHA;bNYA;bTTA;bTTHA;bDDA
  bDDHA;bNNA;bTA;bTHA;bDA;bDHA;bNA;bPA;bPHA;bBA;bBHA;bMA;bYA;bRA;bLA;bLLA;bVA;bSHA;bSSA;bSA;bHA
  aVOWEL SIGN AA;cI;cII;cU;cUU;cVOCALIC R;dRR;dL;dLL;cE;cAI;cO;cAU;aSIGN VIRAMA;bAVAGRAHA
  bJIHVAMULIYA;bUPADHMANIYA;aOM;aDANDA;aDOUBLE DANDA;aABBREVIATION SIGN;aSEPARATOR;aSANDHI MARK
  aSIGN NUKTA;aVOWEL MODIFIER MARK;aEXTRA SHORT VOWEL MARK;aSUTRA MARK;aVOWEL SIGN PRISHTHAMATRA E
  aSIGN INVERTED CANDRABINDU;aDIGIT ZERO;bONE;bTWO;bTHREE;bFOUR;bFIVE;bSIX;bSEVEN;bEIGHT;bNINE
  aEKAM;aSIGN SIDDHAM;aHEADSTROKE;aCONTINUATION SIGN;aSECTION MARK-1;bMARK-2;=111E1
  SINHALA ARCHAIC DIGIT ONE;cTWO;cTHREE;cFOUR;cFIVE;cSIX;cSEVEN;cEIGHT;cNINE;bNUMBER TEN;cTWENTY
  cTHIRTY;cFORTY;cFIFTY;cSIXTY;cSEVENTY;cEIGHTY;cNINETY;cONE HUNDRED;dTHOUSAND;=11200
  KHOJKI LETTER A;bAA;bI;bU;bE;bAI;bO;bAU;bKA;bKHA;bGA;bGGA;bGHA;bNGA;bCA;bCHA;bJA;bJJA;=11213;bNYA
  bTTA;bTTHA;bDDA;bDDHA;bNNA;bTA;bTHA;bDA;bDDDA;bDHA;bNA;bPA;bPHA;bBA;bBBA;bBHA;bMA;bYA;bRA;bLA;bVA
  bSA;bHA;bLLA;aVOWEL SIGN AA;cI;cII;cU;cE;cAI;cO;cAU;aSIGN ANUSVARA;bVIRAMA;bNUKTA;bSHADDA;aDANDA
  aDOUBLE DANDA;aWORD SEPARATOR;aSECTION MARK;aDOUBLE SECTION MARK;aABBREVIATION SIGN;aSIGN SUKUN
  =11280;MULTANI LETTER A;bI;bU;bE;bKA;bKHA;bGA;=11288;bGHA;=1128A;bCA;bCHA;bJA;bJJA;=1128F;bNYA
  bTTA;bTTHA;bDDA;bDDDA;bDDHA;bNNA;bTA;bTHA;bDA;bDHA;bNA;bPA;bPHA;bBA;=1129F;bBHA;bMA;bYA;bRA;bLA
  bVA;bSA;bHA;bRRA;bRHA;aSECTION MARK;=112B0;KHUDAWADI LETTER A;bAA;bI;bII;bU;bUU;bE;bAI;bO;bAU;bKA
  bKHA;bGA;bGGA;bGHA;bNGA;bCA;bCHA;bJA;bJJA;bJHA;bNYA;bTTA;bTTHA;bDDA;bDDDA;bRRA;bDDHA;bNNA;bTA
  bTHA;bDA;bDHA;bNA;bPA;bPHA;bBA;bBBA;bBHA;bMA;bYA;bRA;bLA;bVA;bSHA;bSA;bHA;aSIGN ANUSVARA
  aVOWEL SIGN AA;cI;cII;cU;cUU;cE;cAI;cO;cAU;aSIGN NUKTA;bVIRAMA;=112F0;aDIGIT ZERO;bONE;bTWO
  bTHREE;bFOUR;bFIVE;bSIX;bSEVEN;bEIGHT;bNINE;=11300;GRANTHA SIGN COMBINING ANUSVARA ABOVE
  bCANDRABINDU;bANUSVARA;bVISARGA;=11305;aLETTER A;bAA;bI;bII;bU;bUU;bVOCALIC R;cL;=1130F;bEE;bAI
  =11313;bOO;bAU;bKA;bKHA;bGA;bGHA;bNGA;bCA;bCHA;bJA;bJHA;bNYA;bTTA;bTTHA;bDDA;bDDHA;bNNA;bTA;bTHA
  bDA;bDHA;bNA;=1132A;bPA;bPHA;bBA;bBHA;bMA;bYA;bRA;=11332;bLA;bLLA;=11335;bVA;bSHA;bSSA;bSA;bHA
  =1133B;COMBINING BINDU BELOW;GRANTHA SIGN NUKTA;bAVAGRAHA;aVOWEL SIGN AA;cI;cII;cU;cUU;cVOCALIC R
  dRR;=11347;cEE;cAI;=1134B;cOO;cAU;aSIGN VIRAMA;=11350;aOM;=11357;aAU LENGTH MARK;=1135D
  aSIGN PLUTA;aLETTER VEDIC ANUSVARA;cDOUBLE ANUSVARA;bVOCALIC RR;cLL;aVOWEL SIGN VOCALIC L;dLL
  =11366;COMBINING GRANTHA DIGIT ZERO;cONE;cTWO;cTHREE;cFOUR;cFIVE;cSIX;=11370;bLETTER A;cKA;cNA
  cVI;cPA;=11400;NEWA LETTER A;bAA;bI;bII;bU;bUU;bVOCALIC R;cRR;cL;cLL;bE;bAI;bO;bAU;bKA;bKHA;bGA
  bGHA;bNGA;bNGHA;bCA;bCHA;bJA;bJHA;bNYA;bNYHA;bTTA;bTTHA;bDDA;bDDHA;bNNA;bTA;bTHA;bDA;bDHA;bNA
  bNHA;bPA;bPHA;bBA;bBHA;bMA;bMHA;bYA;bRA;bRHA;bLA;bLHA;bWA;bSHA;bSSA;bSA;bHA;aVOWEL SIGN AA;cI;cII
  cU;cUU;cVOCALIC R;dRR;dL;dLL;cE;cAI;cO;cAU;aSIGN VIRAMA;bCANDRABINDU;bANUSVARA;bVISARGA;bNUKTA
  bAVAGRAHA;bFINAL ANUSVARA;aOM;aSIDDHI;aDANDA;aDOUBLE DANDA;aCOMMA;aGAP FILLER;aABBREVIATION SIGN
  aDIGIT ZERO;bONE;bTWO;bTHREE;bFOUR;bFIVE;bSIX;bSEVEN;bEIGHT;bNINE;aDOUBLE COMMA;aPLACEHOLDER MARK
  =1145D;aINSERTION SIGN;aSANDHI MARK;aLETTER VEDIC ANUSVARA;aSIGN JIHVAMULIYA;bUPADHMANIYA;=11480
  TIRHUTA ANJI;aLETTER A;bAA;bI;bII;bU;bUU;bVOCALIC R;cRR;cL;cLL;bE;bAI;bO;bAU;bKA;bKHA;bGA;bGHA
  bNGA;bCA;bCHA;bJA;bJHA;bNYA;bTTA;bTTHA;bDDA;bDDHA;bNNA;bTA;bTHA;bDA;bDHA;bNA;bPA;bPHA;bBA;bBHA
  bMA;bYA;bRA;bLA;bVA;bSHA;bSSA;bSA;bHA;aVOWEL SIGN AA;cI;cII;cU;cUU;cVOCALIC R;dRR;dL;dLL;cE
  cSHORT E;cAI;cO;cSHORT O;cAU;aSIGN CANDRABINDU;bANUSVARA;bVISARGA;bVIRAMA;bNUKTA;bAVAGRAHA;aGVANG
  aABBREVIATION SIGN;aOM;=114D0;aDIGIT ZERO;bONE;bTWO;bTHREE;bFOUR;bFIVE;bSIX;bSEVEN;bEIGHT;bNINE
  =11580;SIDDHAM LETTER A;bAA;bI;bII;bU;bUU;bVOCALIC R;cRR;cL;cLL;bE;bAI;bO;bAU;bKA;bKHA;bGA;bGHA
  bNGA;bCA;bCHA;bJA;bJHA;bNYA;bTTA;bTTHA;bDDA;bDDHA;bNNA;bTA;bTHA;bDA;bDHA;bNA;bPA;bPHA;bBA;bBHA
  bMA;bYA;bRA;bLA;bVA;bSHA;bSSA;bSA;bHA;aVOWEL SIGN AA;cI;cII;cU;cUU;cVOCALIC R;dRR;=115B8;cE;cAI
  cO;cAU;aSIGN CANDRABINDU;bANUSVARA;bVISARGA;bVIRAMA;bNUKTA;bSIDDHAM;aDANDA;aDOUBLE DANDA
  aSEPARATOR DOT;bBAR;aREPETITION MARK-1;bMARK-2;bMARK-3;aEND OF TEXT MARK
  aSECTION MARK WITH TRIDENT AND U-SHAPED ORNAMENTS;fDOTTED CRESCENTS;dRAYS AND DOTTED CRESCENTS
  gDOUBLE CRESCENTS;gTRIPLE CRESCENTS;cDOUBLE RING;eWITH RAYS;cWITH DOUBLE CRESCENTS
  dTRIPLE CRESCENTS;dQUADRUPLE CRESCENTS;dSEPTUPLE CRESCENTS;dCIRCLES AND RAYS;fTWO ENCLOSURES
  fFOUR ENCLOSURES;aLETTER THREE-CIRCLE ALTERNATE I;bTWO-CIRCLE ALTERNATE I;dII;bALTERNATE U
  aVOWEL SIGN ALTERNATE U;dUU;=11600;MODI LETTER A;bAA;bI;bII;bU;bUU;bVOCALIC R;cRR;cL;cLL;bE;bAI
  bO;bAU;bKA;bKHA;bGA;bGHA;bNGA;bCA;bCHA;bJA;bJHA;bNYA;bTTA;bTTHA;bDDA;bDDHA;bNNA;bTA;bTHA;bDA;bDHA
  bNA;bPA;bPHA;bBA;bBHA;bMA;bYA;bRA;bLA;bVA;bSHA;bSSA;bSA;bHA;bLLA;aVOWEL SIGN AA;cI;cII;cU;cUU
  cVOCALIC R;dRR;dL;dLL;cE;cAI;cO;cAU;aSIGN ANUSVARA;bVISARGA;bVIRAMA;bARDHACANDRA;aDANDA
  aDOUBLE DANDA;aABBREVIATION SIGN;aSIGN HUVA;=11650;aDIGIT ZERO;bONE;bTWO;bTHREE;bFOUR;bFIVE;bSIX
  bSEVEN;bEIGHT;bNINE;=11660;MONGOLIAN BIRGA WITH ORNAMENT;aROTATED BIRGA
  aDOUBLE BIRGA WITH ORNAMENT;aTRIPLE BIRGA WITH ORNAMENT;aBIRGA WITH DOUBLE ORNAMENT
  aROTATED BIRGA WITH ORNAMENT;dDOUBLE ORNAMENT;aINVERTED BIRGA;cWITH DOUBLE ORNAMENT;aSWIRL BIRGA
  cWITH ORNAMENT;dDOUBLE ORNAMENT;aTURNED SWIRL BIRGA WITH DOUBLE ORNAMENT;=11680;TAKRI LETTER A
  bAA;bI;bII;bU;bUU;bE;bAI;bO;bAU;bKA;bKHA;bGA;bGHA;bNGA;bCA;bCHA;bJA;bJHA;bNYA;bTTA;bTTHA;bDDA
  bDDHA;bNNA;bTA;bTHA;bDA;bDHA;bNA;bPA;bPHA;bBA;bBHA;bMA;bYA;bRA;bLA;bVA;bSHA;bSA;bHA;bRRA
  aSIGN ANUSVARA;bVISARGA;aVOWEL SIGN AA;cI;cII;cU;cUU;cE;cAI;cO;cAU;aSIGN VIRAMA;bNUKTA
  aLETTER ARCHAIC KHA;aABBREVIATION SIGN;=116C0;aDIGIT ZERO;bONE;bTWO;bTHREE;bFOUR;bFIVE;bSIX
  bSEVEN;bEIGHT;bNINE;=11700;AHOM LETTER KA;bKHA;bNGA;bNA;bTA;bALTERNATE TA;bPA;bPHA;bBA;bMA;bJA
  bCHA;bTHA;bRA;bLA;bSA;bNYA;bHA;bA;bDA;bDHA;bGA;bALTERNATE GA;bGHA;bBHA;bJHA;bALTERNATE BA;=1171D
  aCONSONANT SIGN MEDIAL LA;dRA;dLIGATING RA;aVOWEL SIGN A;cAA;cI;cII;cU;cUU;cE;cAW;cO;cAI;cAM
  aSIGN KILLER;=11730;aDIGIT ZERO;bONE;bTWO;bTHREE;bFOUR;bFIVE;bSIX;bSEVEN;bEIGHT;bNINE;aNUMBER TEN
  bTWENTY;aSIGN SMALL SECTION;bSECTION;bRULAI;aSYMBOL VI;aLETTER CA;bTTA;bTTHA;bDDA;bDDHA;bNNA;bLLA
  =11800;DOGRA LETTER A;bAA;bI;bII;bU;bUU;bE;bAI;bO;bAU;bKA;bKHA;bGA;bGHA;bNGA;bCA;bCHA;bJA;bJHA
  bNYA;bTTA;bTTHA;bDDA;bDDHA;bNNA;bTA;bTHA;bDA;bDHA;bNA;bPA;bPHA;bBA;bBHA;bMA;bYA;bRA;bLA;bVA;bSHA
  bSSA;bSA;bHA;bRRA;aVOWEL SIGN AA;cI;cII;cU;cUU;cVOCALIC R;dRR;cE;cAI;cO;cAU;aSIGN ANUSVARA
  bVISARGA;bVIRAMA;bNUKTA;aABBREVIATION SIGN;=118A0;WARANG CITI CAPITAL LETTER NGAA;dA;dWI;dYU;dYA
  dYO;dII;dUU;dE;dO;dANG;dGA;dKO;dENY;dYUJ;dUC;dENN;dODD;dTTE;dNUNG;dDA;dAT;dAM;dBU;dPU;dHIYO;dHOLO
  dHORR;dHAR;dSSUU;dSII;dVIYO;bSMALL LETTER NGAA;dA;dWI;dYU;dYA;dYO;dII;dUU;dE;dO;dANG;dGA;dKO;dENY
  dYUJ;dUC;dENN;dODD;dTTE;dNUNG;dDA;dAT;dAM;dBU;dPU;dHIYO;dHOLO;dHORR;dHAR;dSSUU;dSII;dVIYO
  bDIGIT ZERO;cONE;cTWO;cTHREE;cFOUR;cFIVE;cSIX;cSEVEN;cEIGHT;cNINE;bNUMBER TEN;cTWENTY;cTHIRTY
  cFORTY;cFIFTY;cSIXTY;cSEVENTY;cEIGHTY;cNINETY;=118FF;bOM;DIVES AKURU LETTER A;cAA;cI;cII;cU;cUU
  cE;=11909;cO;=1190C;cKA;cKHA;cGA;cGHA;cNGA;cCA;cCHA;cJA;=11915;cNYA;cTTA;=11918;cDDA;cDDHA;cNNA
  cTA;cTHA;cDA;cDHA;cNA;cPA;cPHA;cBA;cBHA;cMA;cYA;cYYA;cRA;cLA;cVA;cSHA;cSSA;cSA;cHA;cLLA;cZA
  bVOWEL SIGN AA;dI;dII;dU;dUU;dE;=11937;dAI;dO;=1193B;bSIGN ANUSVARA;cCANDRABINDU;cHALANTA;bVIRAMA
  bPREFIXED NASAL SIGN;bMEDIAL YA;bINITIAL RA;bMEDIAL RA;bSIGN NUKTA;bDOUBLE DANDA;bGAP FILLER
  bEND OF TEXT MARK;=11950;bDIGIT ZERO;cONE;cTWO;cTHREE;cFOUR;cFIVE;cSIX;cSEVEN;cEIGHT;cNINE;=119A0
  NANDINAGARI LETTER A;bAA;bI;bII;bU;bUU;bVOCALIC R;cRR;=119AA;bE;bAI;bO;bAU;bKA;bKHA;bGA;bGHA;bNGA
  bCA;bCHA;bJA;bJHA;bNYA;bTTA;bTTHA;bDDA;bDDHA;bNNA;bTA;bTHA;bDA;bDHA;bNA;bPA;bPHA;bBA;bBHA;bMA;bYA
  bRA;bLA;bVA;bSHA;bSSA;bSA;bHA;bLLA;bRRA;aVOWEL SIGN AA;cI;cII;cU;cUU;cVOCALIC R;dRR;=119DA;cE;cAI
  cO;cAU;aSIGN ANUSVARA;bVISARGA;bVIRAMA;bAVAGRAHA;bSIDDHAM;aHEADSTROKE;aVOWEL SIGN PRISHTHAMATRA E
  =11A00;ZANABAZAR SQUARE LETTER A;bVOWEL SIGN I;dUE;dU;dE;dOE;dO;dAI;dAU;dREVERSED I;cLENGTH MARK
  bLETTER KA;cKHA;cGA;cGHA;cNGA;cCA;cCHA;cJA;cNYA;cTTA;cTTHA;cDDA;cDDHA;cNNA;cTA;cTHA;cDA;cDHA;cNA
  cPA;cPHA;cBA;cBHA;cMA;cTSA;cTSHA;cDZA;cDZHA;cZHA;cZA;c-A;cYA;cRA;cLA;cVA;cSHA;cSSA;cSA;cHA;cKSSA
  bFINAL CONSONANT MARK;bSIGN VIRAMA;cCANDRABINDU;dWITH ORNAMENT;cCANDRA WITH ORNAMENT;cANUSVARA
  cVISARGA;bCLUSTER-INITIAL LETTER RA;bCLUSTER-FINAL LETTER YA;dRA;dLA;dVA;bINITIAL HEAD MARK
  bCLOSING HEAD MARK;bMARK TSHEG;cSHAD;cDOUBLE SHAD;cLONG TSHEG;bINITIAL DOUBLE-LINED HEAD MARK
  bCLOSING DOUBLE-LINED HEAD MARK;bSUBJOINER;=11A50;SOYOMBO LETTER A;aVOWEL SIGN I;cUE;cU;cE;cO;cOE
  cAI;cAU;cVOCALIC R;dL;bLENGTH MARK;aLETTER KA;bKHA;bGA;bGHA;bNGA;bCA;bCHA;bJA;bJHA;bNYA;bTTA
  bTTHA;bDDA;bDDHA;bNNA;bTA;bTHA;bDA;bDHA;bNA;bPA;bPHA;bBA;bBHA;bMA;bTSA;bTSHA;bDZA;bZHA;bZA;b-A
  bYA;bRA;bLA;bVA;bSHA;bSSA;bSA;bHA;bKSSA;aSIGN JIHVAMULIYA;bUPADHMANIYA;aCLUSTER-INITIAL LETTER RA
  cLA;cSHA;cSA;aFINAL CONSONANT SIGN G;dK;dNG;dD;dN;dB;dM;dR;dL;dSH;dS;d-A;aSIGN ANUSVARA;bVISARGA
  aGEMINATION MARK;aSUBJOINER;aMARK TSHEG;bSHAD;bDOUBLE SHAD;bPLUTA
  aHEAD MARK WITH MOON AND SUN AND TRIPLE FLAME;hFLAME;fSUN;aTERMINAL MARK-1;bMARK-2;=11AB0
  CANADIAN SYLLABICS NATTILIK HI;cHII;cHO;cHOO;cHA;cHAA;cSHRI;cSHRII;cSHRO;cSHROO;cSHRA;cSHRAA;bSPE
  bSPI;bSPO;bSPA;PAU CIN HAU LETTER PA;dKA;dLA;dMA;dDA;dZA;dVA;dNGA;dHA;dGA;dKHA;dSA;dBA;dCA;dTA
  dTHA;dNA;dPHA;dRA;dFA;dCHA;dA;dE;dI;dO;dU;dUA;dIA;dFINAL P;eK;eT;eM;eN;eL;eW;eNG;eY
  cRISING TONE LONG;dTONE;cSANDHI GLOTTAL STOP;cRISING TONE LONG FINAL;eFINAL
  cSANDHI GLOTTAL STOP FINAL;dTONE LONG;dTONE;eLONG FINAL;eFINAL;cMID-LEVEL TONE
  cGLOTTAL STOP VARIANT;cMID-LEVEL TONE LONG FINAL;eFINAL;cLOW-FALLING TONE LONG;dTONE
  cGLOTTAL STOP;cLOW-FALLING TONE LONG FINAL;eFINAL;cGLOTTAL STOP FINAL;=11C00;BHAIKSUKI LETTER A
  bAA;bI;bII;bU;bUU;bVOCALIC R;cRR;cL;=11C0A;bE;bAI;bO;bAU;bKA;bKHA;bGA;bGHA;bNGA;bCA;bCHA;bJA;bJHA
  bNYA;bTTA;bTTHA;bDDA;bDDHA;bNNA;bTA;bTHA;bDA;bDHA;bNA;bPA;bPHA;bBA;bBHA;bMA;bYA;bRA;bLA;bVA;bSHA
  bSSA;bSA;bHA;aVOWEL SIGN AA;cI;cII;cU;cUU;cVOCALIC R;dRR;dL;=11C38;cE;cAI;cO;cAU
  aSIGN CANDRABINDU;bANUSVARA;bVISARGA;bVIRAMA;bAVAGRAHA;aDANDA;aDOUBLE DANDA;aWORD SEPARATOR
  aGAP FILLER-1;bFILLER-2;=11C50;aDIGIT ZERO;bONE;bTWO;bTHREE;bFOUR;bFIVE;bSIX;bSEVEN;bEIGHT;bNINE
  aNUMBER ONE;bTWO;bTHREE;bFOUR;bFIVE;bSIX;bSEVEN;bEIGHT;bNINE;bTEN;bTWENTY;bTHIRTY;bFORTY;bFIFTY
  bSIXTY;bSEVENTY;bEIGHTY;bNINETY;aHUNDREDS UNIT MARK;=11C70;MARCHEN HEAD MARK;aMARK SHAD
  aLETTER KA;bKHA;bGA;bNGA;bCA;bCHA;bJA;bNYA;bTA;bTHA;bDA;bNA;bPA;bPHA;bBA;bMA;bTSA;bTSHA;bDZA;bWA
  bZHA;bZA;b-A;bYA;bRA;bLA;bSHA;bSA;bHA;bA;=11C92;aSUBJOINED LETTER KA;cKHA;cGA;cNGA;cCA;cCHA;cJA
  cNYA;cTA;cTHA;cDA;cNA;cPA;cPHA;cBA;cMA;cTSA;cTSHA;cDZA;cWA;cZHA;cZA;=11CA9;cYA;cRA;cLA;cSHA;cSA
  cHA;cA;aVOWEL SIGN AA;cI;cU;cE;cO;aSIGN ANUSVARA;bCANDRABINDU;=11D00;MASARAM GONDI LETTER A;cAA
  cI;cII;cU;cUU;cE;=11D08;cAI;cO;=11D0B;cAU;cKA;cKHA;cGA;cGHA;cNGA;cCA;cCHA;cJA;cJHA;cNYA;cTTA
  cTTHA;cDDA;cDDHA;cNNA;cTA;cTHA;cDA;cDHA;cNA;cPA;cPHA;cBA;cBHA;cMA;cYA;cRA;cLA;cVA;cSHA;cSSA;cSA
  cHA;cLLA;cKSSA;cJNYA;cTRA;bVOWEL SIGN AA;dI;dII;dU;dUU;dVOCALIC R;=11D3A;dE;=11D3C;dAI;dO;=11D3F
  dAU;bSIGN ANUSVARA;cVISARGA;cNUKTA;cCANDRA;cHALANTA;bVIRAMA;bREPHA;bRA-KARA;=11D50;bDIGIT ZERO
  cONE;cTWO;cTHREE;cFOUR;cFIVE;cSIX;cSEVEN;cEIGHT;cNINE;=11D60;GUNJALA GONDI LETTER A;cAA;cI;cII;cU
  cUU;=11D67;cEE;cAI;=11D6A;cOO;cAU;cYA;cVA;cBA;cBHA;cMA;cKA;cKHA;cTA;cTHA;cLA;cGA;cGHA;cDA;cDHA
  cNA;cCA;cCHA;cTTA;cTTHA;cLLA;cJA;cJHA;cDDA;cDDHA;cNGA;cPA;cPHA;cHA;cRA;cSA;bVOWEL SIGN AA;dI;dII
  dU;dUU;=11D90;dEE;dAI;=11D93;dOO;dAU;bSIGN ANUSVARA;cVISARGA;bVIRAMA;bOM;=11DA0;bDIGIT ZERO;cONE
  cTWO;cTHREE;cFOUR;cFIVE;cSIX;cSEVEN;cEIGHT;cNINE;=11EE0;MAKASAR LETTER KA;bGA;bNGA;bPA;bBA;bMA
  bTA;bDA;bNA;bCA;bJA;bNYA;bYA;bRA;bLA;bVA;bSA;bA;aANGKA;aVOWEL SIGN I;cU;cE;cO;aPASSIMBANG
  aEND OF SECTION;=11FB0;LISU LETTER YHA;=11FC0;TAMIL FRACTION ONE THREE-HUNDRED-AND-TWENTIETH
  cONE-HUNDRED-AND-SIXTIETH;cEIGHTIETH;cSIXTY-FOURTH;cFORTIETH;cTHIRTY-SECOND;bTHREE EIGHTIETHS
  cSIXTY-FOURTHS;bONE TWENTIETH;cSIXTEENTH-1;cSIXTEENTH-2;cTENTH;cEIGHTH;bTHREE TWENTIETHS
  cSIXTEENTHS;bONE FIFTH;cQUARTER;cHALF-1;cHALF-2;bTHREE QUARTERS;bDOWNSCALING FACTOR KIIZH
  aSIGN NEL;bCEVITU;bAAZHAAKKU;bUZHAKKU;bMUUVUZHAKKU;bKURUNI;bPATHAKKU;bMUKKURUNI;bKAACU;bPANAM
  bPON;bVARAAKAN;bPAARAM;bKUZHI;bVELI;aWET CULTIVATION SIGN;aDRY CULTIVATION SIGN;aLAND SIGN
  aSALT PAN SIGN;aTRADITIONAL CREDIT SIGN;bNUMBER SIGN;aCURRENT SIGN;aAND ODD SIGN;aSPENT SIGN
  aTOTAL SIGN;aIN POSSESSION SIGN;aSTARTING FROM SIGN;aSIGN MUTHALIYA;bVAKAIYARAA;=11FFF
  aPUNCTUATION END OF TEXT;CUNEIFORM SIGN A;cTIMES A;dBAD;dGAN2 TENU;dHA;dIGI;dLAGAR GUNU;dMUSH
  dSAG;bA2;bAB;cTIMES ASH2;dDUN3 GUNU;dGAL;dGAN2 TENU;dHA;dIGI GUNU;dIMIN;dLAGAB;dSHESH
  dU PLUS U PLUS U;cGUNU;bAB2;cTIMES BALAG;dGAN2 TENU;dME PLUS EN;dSHA3;dTAK4;bAD;bAK;cTIMES ERIN2
  dSHITA PLUS GISH;bAL;cTIMES AL;dDIM2;dGISH;dHA;dKAD3;dKI;dSHE;dUSH;bALAN;bALEPH;bAMAR;cTIMES SHE
  bAN;cOVER AN;cTHREE TIMES;cPLUS NAGA OPPOSING AN PLUS NAGA;eSQUARED;bANSHE;bAPIN;bARAD;cTIMES KUR
  bARKAB;bASAL2;bASH;cZIDA TENU;cKABA TENU;cOVER ASH TUG2 OVER TUG2 TUG2 OVER TUG2 PAP;eOVER ASH
  gCROSSING ASH OVER ASH OVER ASH;bASH2;bASHGAB;bBA;bBAD;bBAG3;bBAHAR2;bBAL;cOVER BAL;bBALAG;bBAR
  bBARA2;bBI;cTIMES A;dGAR;dIGI GUNU;bBU;cOVER BU AB;eUN;cCROSSING BU;bBULUG;cOVER BULUG;bBUR;bBUR2
  bDA;bDAG;cKISIM5 TIMES A PLUS MASH;eAMAR;eBALAG;eBI;eGA;fPLUS MASH;eGI;eGIR2;eGUD;eHA;eIR
  fPLUS LU;eKAK;eLA;eLU;fPLUS MASH2;eLUM;eNE;ePAP PLUS PAP;eSI;eTAK4;eU2 PLUS GIR2;eUSH;bDAM;bDAR
  bDARA3;bDARA4;bDI;bDIB;bDIM;cTIMES SHE;bDIM2;bDIN;cKASKAL U GUNU DISH;bDISH;bDU;cOVER DU;cGUNU
  cSHESHIG;bDUB;cTIMES ESH2;bDUB2;bDUG;bDUGUD;bDUH;bDUN;bDUN3;cGUNU;dGUNU;bDUN4;bDUR2;bE;cTIMES PAP
  cOVER E NUN OVER NUN;bE2;cTIMES A PLUS HA PLUS DA;dGAR;dMI;dSAL;dSHE;dU;bEDIN;bEGIR;bEL;bEN
  cTIMES GAN2;eTENU;dME;cCROSSING EN;cOPPOSING EN;cSQUARED;bEREN;bERIN2;bESH2;bEZEN;cTIMES A
  ePLUS LAL;gTIMES LAL;dAN;dBAD;dDUN3 GUNU;fGUNU;dHA;eGUNU;dIGI GUNU;dKASKAL;eSQUARED;dKU3;dLA
  dLAL TIMES LAL;dLI;dLU;dU2;dUD;bGA;cGUNU;bGA2;cTIMES A PLUS DA PLUS HA;fHA;fIGI
  dAB2 TENU PLUS TAB;dAN;dASH;dASH2 PLUS GAL;dBAD;dBAR PLUS RA;dBUR;ePLUS RA;dDA;dDI;dDIM TIMES SHE
  dDUB;dEL;ePLUS LA;dEN;eTIMES GAN2 TENU;dGAN2 TENU;dGAR;dGI;dGI4;ePLUS A;dGIR2 PLUS SU
  dHA PLUS LU PLUS ESH2;dHAL;ePLUS LA;dHI PLUS LI;dHUB2;dIGI GUNU;dISH PLUS HU PLUS ASH;dKAK
  dKASKAL;dKID;ePLUS LAL;dKU3 PLUS AN;dLA;dME PLUS EN;dMI;dNUN;eOVER NUN;dPA;dSAL;dSAR;dSHE
  ePLUS TUR;dSHID;dSUM;dTAK4;dU;dUD;ePLUS DU;cOVER GA2;bGABA;cCROSSING GABA;bGAD
  cOVER GAD GAR OVER GAR;bGAL;cGAD OVER GAD GAR OVER GAR;bGALAM;bGAM;bGAN;bGAN2;cTENU;cOVER GAN2
  cCROSSING GAN2;bGAR;bGAR3;bGASHAN;bGESHTIN;cTIMES KUR;bGI;cTIMES E;dU;cCROSSING GI;bGI4;cOVER GI4
  cCROSSING GI4;bGIDIM;bGIR2;cGUNU;bGIR3;cTIMES A PLUS IGI;dGAN2 TENU;dIGI;dLU PLUS IGI;dPA;bGISAL
  bGISH;cCROSSING GISH;cTIMES BAD;dTAK4;cTENU;bGU;cCROSSING GU;bGU2;cTIMES KAK;eTIMES IGI GUNU;dNUN
  dSAL PLUS TUG2;cGUNU;bGUD;cTIMES A PLUS KUR;dKUR;cOVER GUD LUGAL;bGUL;bGUM;cTIMES SHE;bGUR;bGUR7
  bGURUN;bGURUSH;bHA;cTENU;cGUNU;bHAL;bHI;cTIMES ASH;dASH2;dBAD;dDISH;dGAD;dKIN;dNUN;dSHE;dU;bHU
  bHUB2;cTIMES AN;dHAL;dKASKAL;dLISH;dUD;bHUL2;bI;cA;bIB;bIDIM;cOVER IDIM BUR;eSQUARED;bIG;bIGI
  cDIB;cRI;cOVER IGI SHIR OVER SHIR UD OVER UD;cGUNU;bIL;cTIMES GAN2 TENU;bIL2;bIM;cTIMES TAK4
  cCROSSING IM;cOPPOSING IM;cSQUARED;bIMIN;bIN;bIR;bISH;bKA;cTIMES A;dAD;ePLUS KU3;dASH2;dBAD
  dBALAG;dBAR;dBI;dERIN2;dESH2;dGA;dGAL;dGAN2 TENU;dGAR;ePLUS SHA3 PLUS A;dGI;dGIR2;dGISH PLUS SAR
  eCROSSING GISH;dGU;dGUR7;dIGI;dIM;dKAK;dKI;dKID;dLI;dLU;dME;ePLUS DU;fGI;fTE;dMI;ePLUS NUNUZ;dNE
  dNUN;dPI;dRU;dSA;dSAR;dSHA;dSHE;dSHID;dSHU;dSIG;dSUHUR;dTAR;dU;dU2;dUD;dUMUM TIMES PA;dUSH;dZI
  bKA2;cCROSSING KA2;bKAB;bKAD2;bKAD3;bKAD4;bKAD5;cOVER KAD5;bKAK;cTIMES IGI GUNU;bKAL;cTIMES BAD
  cCROSSING KAL;bKAM2;bKAM4;bKASKAL;cLAGAB TIMES U OVER LAGAB TIMES U
  cOVER KASKAL LAGAB TIMES U OVER LAGAB TIMES U;bKESH2;bKI;cTIMES BAD;dU;dUD;bKID;bKIN;bKISAL;bKISH
  bKISIM5;cOVER KISIM5;bKU;cOVER HI TIMES ASH2 KU OVER HI TIMES ASH2;bKU3;bKU4;cVARIANT FORM;bKU7
  bKUL;cGUNU;bKUN;bKUR;cOPPOSING KUR;bKUSHU2;bKWU318;bLA;bLAGAB;cTIMES A;ePLUS DA PLUS HA;fGAR;fLAL
  dAL;dAN;dASH ZIDA TENU;dBAD;dBI;dDAR;dEN;dGA;dGAR;dGUD;ePLUS GUD;dHA;dHAL;dHI TIMES NUN;dIGI GUNU
  dIM;ePLUS HA;fLU;dKI;dKIN;dKU3;dKUL;ePLUS HI PLUS A;dLAGAB;dLISH;dLU;dLUL;dME;ePLUS EN;dMUSH;dNE
  dSHE PLUS SUM;dSHITA PLUS GISH PLUS ERIN2;gTENU;dSHU2;ePLUS SHU2;dSUM;dTAG;dTAK4
  dTE PLUS A PLUS SU PLUS NA;dU;ePLUS A;fU PLUS U;dU2 PLUS ASH;dUD;dUSH;cSQUARED;bLAGAR;cTIMES SHE
  ePLUS SUM;cGUNU;dOVER LAGAR GUNU SHE;bLAHSHU;bLAL;cTIMES LAL;bLAM;cTIMES KUR;ePLUS RU;bLI;bLIL
  bLIMMU2;bLISH;bLU;cTIMES BAD;bLU2;cTIMES AL;dBAD;dESH2;eTENU;dGAN2 TENU;dHI TIMES BAD;dIM;dKAD2
  dKAD3;ePLUS ASH;dKI;dLA PLUS ASH;dLAGAB;dME PLUS EN;dNE;dNU;dSI PLUS ASH;dSIK2 PLUS BU;dTUG2
  cTENU;cCROSSING LU2;cOPPOSING LU2;cSQUARED;cSHESHIG;bLU3;bLUGAL;cOVER LUGAL;cOPPOSING LUGAL
  cSHESHIG;bLUH;bLUL;bLUM;cOVER LUM;eGAR OVER GAR;bMA;cTIMES TAK4;cGUNU;bMA2;bMAH;bMAR;bMASH;bMASH2
  bME;bMES;bMI;bMIN;bMU;cOVER MU;bMUG;cGUNU;bMUNSUB;bMURGU2;bMUSH;cTIMES A;dKUR;dZA;cOVER MUSH
  eTIMES A PLUS NA;cCROSSING MUSH;bMUSH3;cTIMES A;ePLUS DI;dDI;cGUNU;bNA;bNA2;bNAGA;cINVERTED
  cTIMES SHU TENU;cOPPOSING NAGA;bNAGAR;bNAM NUTILLU;bNAM;bNAM2;bNE;cTIMES A;dUD;cSHESHIG;bNI
  cTIMES E;bNI2;bNIM;cTIMES GAN2 TENU;dGAR PLUS GAN2 TENU;bNINDA2;cTIMES AN;dASH;ePLUS ASH;dGUD
  dME PLUS GAN2 TENU;dNE;dNUN;dSHE;ePLUS A AN;fASH;gPLUS ASH;dU2 PLUS ASH;dUSH;bNISAG;bNU;bNU11
  bNUN;cLAGAR TIMES GAR;eMASH;eSAL;fOVER NUN LAGAR TIMES SAL;eUSH;cTENU;cOVER NUN;cCROSSING NUN
  eLAGAR OVER LAGAR;bNUNUZ;cAB2 TIMES ASHGAB;eBI;eDUG;eGUD;eIGI GUNU;eKAD3;eLA;eNE;eSILA3;eU2
  cKISIM5 TIMES BI;fU;bPA;bPAD;bPAN;bPAP;bPESH2;bPI;cTIMES A;dAB;dBI;dBU;dE;dI;dIB;dU;dU2
  cCROSSING PI;bPIRIG;cTIMES KAL;dUD;dZA;cOPPOSING PIRIG;bRA;bRAB;bRI;bRU;bSA;bSAG NUTILLU;bSAG
  cTIMES A;dDU;dDUB;dHA;dKAK;dKUR;dLUM;dMI;dNUN;dSAL;dSHID;dTAB;dU2;dUB;dUM;dUR;dUSH;cOVER SAG
  cGUNU;bSAL;cLAGAB TIMES ASH2;bSANGA2;bSAR;bSHA;bSHA3;cTIMES A;dBAD;dGISH;dNE;dSHU2;dTUR;dU
  ePLUS A;bSHA6;bSHAB6;bSHAR2;bSHE;cHU;cOVER SHE GAD OVER GAD GAR OVER GAR
  eTAB OVER TAB GAR OVER GAR;bSHEG9;bSHEN;bSHESH;bSHESH2;bSHESHLAM;bSHID;cTIMES A;dIM;bSHIM
  cTIMES A;dBAL;dBULUG;dDIN;dGAR;dIGI;eGUNU;dKUSHU2;dLUL;dMUG;dSAL;bSHINIG;bSHIR;cTENU
  cOVER SHIR BUR OVER BUR;bSHITA;bSHU;cOVER INVERTED SHU;bSHU2;bSHUBUR;bSI;cGUNU;bSIG;bSIG4
  cOVER SIG4 SHU2;bSIK2;bSILA3;bSU;cOVER SU;bSUD;bSUD2;bSUHUR;bSUM;bSUMASH;bSUR;bSUR9;bTA;cASTERISK
  cTIMES HI;dMI;cGUNU;bTAB;cOVER TAB NI OVER NI DISH OVER DISH;cSQUARED;bTAG;cTIMES BI;dGUD;dSHE
  dSHU;dTUG2;dUD;bTAK4;bTAR;bTE;cGUNU;bTI;cTENU;bTIL;bTIR;cTIMES TAK4;cOVER TIR
  eGAD OVER GAD GAR OVER GAR;bTU;bTUG2;bTUK;bTUM;bTUR;cOVER TUR ZA OVER ZA;bU;cGUD;cU U
  cOVER U PA OVER PA GAR OVER GAR;eSUR OVER SUR;eU REVERSED OVER U REVERSED;bU2;bUB;bUD;cKUSHU2
  cTIMES BAD;dMI;dU PLUS U PLUS U;iGUNU;cGUNU;cSHESHIG;dTIMES BAD;bUDUG;bUM;cTIMES LAGAB
  dME PLUS DA;dSHA3;dU;bUMBIN;bUMUM;cTIMES KASKAL;dPA;bUN;cGUNU;bUR;cCROSSING UR;cSHESHIG;bUR2
  cTIMES A PLUS HA;fNA;dAL;dHA;dNUN;dU2;ePLUS ASH;fBI;bUR4;bURI;bURI3;bURU;cTIMES A;dASHGAB;dBAR
  dDUN;dGA;dGAL;dGAN2 TENU;dGAR;dGU;dHA;dIGI;dIM;dISH;dKI;dLUM;dMIN;dPA;dSHE;dSIG4;dTU;dU PLUS GUD
  dUD;dURUDA;bURUDA;cTIMES U;bUSH;cTIMES A;dKU;dKUR;dTAK4;bUSHX;bUSH2;bUSHUMX;bUTUKI;bUZ3
  cTIMES KASKAL;bUZU;bZA;cTENU;cSQUARED TIMES KUR;bZAG;bZAMX;bZE2;bZI;cOVER ZI;bZI3;bZIB;cKABA TENU
  bZIG;bZIZ2;bZU;bZU5;cTIMES A;bZUBUR;bZUM;bKAP ELAMITE;bAB TIMES NUN;bAB2 TIMES A;bAMAR TIMES KUG
  bDAG KISIM5 TIMES U2 PLUS MASH;bDAG3;bDISH PLUS SHU;bDUB TIMES SHE;bEZEN TIMES GUD;dSHE
  bGA2 TIMES AN PLUS KAK PLUS A;dASH2;bGE22;bGIG;bHUSH;bKA TIMES ANSHE;dASH3;dGISH;dGUD
  dHI TIMES ASH2;dLUM;dPA;dSHUL;dTU;dUR2;bLAGAB TIMES GI;bLU2 SHESHIG TIMES BAD
  cTIMES ESH2 PLUS LAL;dSHU;bMESH;bMUSH3 TIMES ZA;bNA4;bNIN;bNIN9;bNINDA2 TIMES BAL;dGI
  bNU11 ROTATED NINETY DEGREES;bPESH2 ASTERISK;bPIR2;bSAG TIMES IGI GUNU;bTI2;bUM TIMES ME;bU U
  =12400;aNUMERIC SIGN TWO ASH;cTHREE ASH;cFOUR ASH;cFIVE ASH;cSIX ASH;cSEVEN ASH;cEIGHT ASH
  cNINE ASH;cTHREE DISH;cFOUR DISH;cFIVE DISH;cSIX DISH;cSEVEN DISH;cEIGHT DISH;cNINE DISH;cFOUR U
  cFIVE U;cSIX U;cSEVEN U;cEIGHT U;cNINE U;cONE GESH2;cTWO GESH2;cTHREE GESH2;cFOUR GESH2
  cFIVE GESH2;cSIX GESH2;cSEVEN GESH2;cEIGHT GESH2;cNINE GESH2;cONE GESHU;cTWO GESHU;cTHREE GESHU
  cFOUR GESHU;cFIVE GESHU;cTWO SHAR2;cTHREE SHAR2;eVARIANT FORM;cFOUR SHAR2;cFIVE SHAR2;cSIX SHAR2
  cSEVEN SHAR2;cEIGHT SHAR2;cNINE SHAR2;cONE SHARU;cTWO SHARU;cTHREE SHARU;eVARIANT FORM
  cFOUR SHARU;cFIVE SHARU;cSHAR2 TIMES GAL PLUS DISH;gMIN;cONE BURU;cTWO BURU;cTHREE BURU
  eVARIANT FORM;cFOUR BURU;cFIVE BURU;cTHREE VARIANT FORM ESH16;fESH21;cFOUR VARIANT FORM LIMMU
  fLIMMU4;fLIMMU A;gB;cSIX VARIANT FORM ASH9;cSEVEN VARIANT FORM IMIN3;fIMIN A;gB
  cEIGHT VARIANT FORM USSU;fUSSU3;cNINE VARIANT FORM ILIMMU;fILIMMU3;fILIMMU4;fILIMMU A
  cTWO ASH TENU;cTHREE ASH TENU;cFOUR ASH TENU;cFIVE ASH TENU;cSIX ASH TENU;cONE BAN2;cTWO BAN2
  cTHREE BAN2;cFOUR BAN2;eVARIANT FORM;cFIVE BAN2;eVARIANT FORM;cNIGIDAMIN;cNIGIDAESH;cONE ESHE3
  cTWO ESHE3;cONE THIRD DISH;cTWO THIRDS DISH;cFIVE SIXTHS DISH;cONE THIRD VARIANT FORM A
  cTWO THIRDS VARIANT FORM A;cONE EIGHTH ASH;dQUARTER ASH;cOLD ASSYRIAN ONE SIXTH;fQUARTER
  cONE QUARTER GUR;dHALF GUR;cELAMITE ONE THIRD;dTWO THIRDS;dFORTY;dFIFTY;cFOUR U VARIANT FORM
  cFIVE U VARIANT FORM;cSIX U VARIANT FORM;cSEVEN U VARIANT FORM;cEIGHT U VARIANT FORM
  cNINE U VARIANT FORM;=12470;aPUNCTUATION SIGN OLD ASSYRIAN WORD DIVIDER;cVERTICAL COLON
  cDIAGONAL COLON;dTRICOLON;dQUADCOLON;=12480;aSIGN AB TIMES NUN TENU;dSHU2;bAD TIMES ESH2
  bBAD TIMES DISH TENU;bBAHAR2 TIMES AB2;dNI;dZA;bBU OVER BU TIMES NA2;bDA TIMES TAK4
  bDAG TIMES KUR;bDIM TIMES IGI;dU U U;bDIM2 TIMES UD;bDUG TIMES ANSHE;dASH;eAT LEFT;dDIN;dDUN
  dERIN2;dGA;dGI;dGIR2 GUNU;dGISH;dHA;dHI;dIGI GUNU;dKASKAL;dKUR;dKUSHU2;ePLUS KASKAL;dLAK-020;dLAM
  eTIMES KUR;dLUH PLUS GISH;dMASH;dMES;dMI;dNI;dPI;dSHE;dSI GUNU;bE2 TIMES KUR;dPAP;bERIN2 X
  bESH2 CROSSING ESH2;bEZEN SHESHIG TIMES ASH;eHI;eIGI GUNU;eLA;eLAL;eME;eMES;eSU;cTIMES SU
  bGA2 TIMES BAHAR2;dDIM GUNU;dDUG TIMES IGI GUNU;fKASKAL;dEREN;dGA;dGAR PLUS DI;fNE;dHA PLUS A
  dKUSHU2 PLUS KASKAL;dLAM;eTIMES KUR;dLUH;dMUSH;dNE;ePLUS E2;fGI;dSHIM;dZIZ2
  bGABA ROTATED NINETY DEGREES;bGESHTIN TIMES U;bGISH TIMES GISH CROSSING GISH;bGU2 TIMES IGI GUNU
  bGUD PLUS GISH TIMES TAK4;bHA TENU GUNU;bHI TIMES ASH OVER HI TIMES ASH;bKA TIMES BU;dKA;dU U U
  dUR;bLAGAB TIMES ZU OVER ZU;bLAK-003;bLAK-021;bLAK-025;bLAK-030;bLAK-050;bLAK-051;bLAK-062
  bLAK-079 OVER LAK-079 GUNU;bLAK-080;bLAK-081 OVER LAK-081;bLAK-092;bLAK-130;bLAK-142;bLAK-210
  bLAK-219;bLAK-220;bLAK-225;bLAK-228;bLAK-238;bLAK-265;bLAK-266;bLAK-343;bLAK-347;bLAK-348
  bLAK-383;bLAK-384;bLAK-390;bLAK-441;bLAK-449;cTIMES GU;dIGI;dPAP PLUS LU3;fPAP PLUS LU3
  dU2 PLUS BA;bLAK-450;bLAK-457;bLAK-470;bLAK-483;bLAK-490;bLAK-492;bLAK-493;bLAK-495;bLAK-550
  bLAK-608;bLAK-617;cTIMES ASH;dBAD;dDUN3 GUNU GUNU;dKU3;dLA;dTAR;dTE;dU2;dUD;dURUDA;bLAK-636
  bLAK-648;cTIMES DUB;dGA;dIGI;eGUNU;dNI;dPAP PLUS PAP PLUS LU3;dSHESH PLUS KI;dUD;dURUDA;bLAK-724
  bLAK-749;bLU2 GUNU TIMES ASH;cTIMES DISH;dHAL;dPAP;ePLUS PAP PLUS LU3;dTAK4;bMI PLUS ZA7
  bMUSH OVER MUSH TIMES GA;fKAK;bNINDA2 TIMES DIM GUNU;dGISH;dGUL;dHI;dKESH2;dLAK-050;dMASH
  dPAP PLUS PAP;dU;ePLUS U;dURUDA;bSAG GUNU TIMES HA;cTIMES EN;dSHE AT LEFT;dTAK4;bSHA6 TENU
  bSHE OVER SHE;cPLUS HUB2;dNAM2;dSAR;bSHU2 PLUS DUG TIMES NI;dE2 TIMES AN;bSI TIMES TAK4
  bTAK4 PLUS SAG;bTUM TIMES GAN2 TENU;dTHREE DISH;bUR2 INVERTED;cTIMES UD;bURU TIMES DARA3;dLAK-668
  dLU3;bZA7;bZU OVER ZU PLUS SAR;bZU5 TIMES THREE DISH TENU;=12F90;CYPRO-MINOAN SIGN CM001;bCM002
  bCM004;bCM005;bCM006;bCM007;bCM008;bCM009;bCM010;bCM011;bCM012;bCM012B;bCM013;bCM015;bCM017
  bCM019;bCM021;bCM023;bCM024;bCM025;bCM026;bCM027;bCM028;bCM029;bCM030;bCM033;bCM034;bCM035;bCM036
  bCM037;bCM038;bCM039;bCM040;bCM041;bCM044;bCM046;bCM047;bCM049;bCM050;bCM051;bCM052;bCM053;bCM054
  bCM055;bCM056;bCM058;bCM059;bCM060;bCM061;bCM062;bCM063;bCM064;bCM066;bCM067;bCM068;bCM069;bCM070
  bCM071;bCM072;bCM073;bCM074;bCM075;bCM075B;bCM076;bCM078;bCM079;bCM080;bCM081;bCM082;bCM083
  bCM084;bCM085;bCM086;bCM087;bCM088;bCM089;bCM090;bCM091;bCM092;bCM094;bCM095;bCM096;bCM097;bCM098
  bCM099;bCM100;bCM101;bCM102;bCM103;bCM104;bCM105;bCM107;bCM108;bCM109;bCM110;bCM112;bCM114;bCM301
  bCM302;=13000;EGYPTIAN HIEROGLYPH A001;bA002;bA003;bA004;bA005;bA005A;bA006;bA006A;bA006B;bA007
  bA008;bA009;bA010;bA011;bA012;bA013;bA014;bA014A;bA015;bA016;bA017;bA017A;bA018;bA019;bA020;bA021
  bA022;bA023;bA024;bA025;bA026;bA027;bA028;bA029;bA030;bA031;bA032;bA032A;bA033;bA034;bA035;bA036
  bA037;bA038;bA039;bA040;bA040A;bA041;bA042;bA042A;bA043;bA043A;bA044;bA045;bA045A;bA046;bA047
  bA048;bA049;bA050;bA051;bA052;bA053;bA054;bA055;bA056;bA057;bA058;bA059;bA060;bA061;bA062;bA063
  bA064;bA065;bA066;bA067;bA068;bA069;bA070;bB001;bB002;bB003;bB004;bB005;bB005A;bB006;bB007;bB008
  bB009;bC001;bC002;bC002A;bC002B;bC002C;bC003;bC004;bC005;bC006;bC007;bC008;bC009;bC010;bC010A
  bC011;bC012;bC013;bC014;bC015;bC016;bC017;bC018;bC019;bC020;bC021;bC022;bC023;bC024;bD001;bD002
  bD003;bD004;bD005;bD006;bD007;bD008;bD008A;bD009;bD010;bD011;bD012;bD013;bD014;bD015;bD016;bD017
  bD018;bD019;bD020;bD021;bD022;bD023;bD024;bD025;bD026;bD027;bD027A;bD028;bD029;bD030;bD031;bD031A
  bD032;bD033;bD034;bD034A;bD035;bD036;bD037;bD038;bD039;bD040;bD041;bD042;bD043;bD044;bD045;bD046
  bD046A;bD047;bD048;bD048A;bD049;bD050;bD050A;bD050B;bD050C;bD050D;bD050E;bD050F;bD050G;bD050H
  bD050I;bD051;bD052;bD052A;bD053;bD054;bD054A;bD055;bD056;bD057;bD058;bD059;bD060;bD061;bD062
  bD063;bD064;bD065;bD066;bD067;bD067A;bD067B;bD067C;bD067D;bD067E;bD067F;bD067G;bD067H;bE001;bE002
  bE003;bE004;bE005;bE006;bE007;bE008;bE008A;bE009;bE009A;bE010;bE011;bE012;bE013;bE014;bE015;bE016
  bE016A;bE017;bE017A;bE018;bE019;bE020;bE020A;bE021;bE022;bE023;bE024;bE025;bE026;bE027;bE028
  bE028A;bE029;bE030;bE031;bE032;bE033;bE034;bE034A;bE036;bE037;bE038;bF001;bF001A;bF002;bF003
  bF004;bF005;bF006;bF007;bF008;bF009;bF010;bF011;bF012;bF013;bF013A;bF014;bF015;bF016;bF017;bF018
  bF019;bF020;bF021;bF021A;bF022;bF023;bF024;bF025;bF026;bF027;bF028;bF029;bF030;bF031;bF031A;bF032
  bF033;bF034;bF035;bF036;bF037;bF037A;bF038;bF038A;bF039;bF040;bF041;bF042;bF043;bF044;bF045
  bF045A;bF046;bF046A;bF047;bF047A;bF048;bF049;bF050;bF051;bF051A;bF051B;bF051C;bF052;bF053;bG001
  bG002;bG003;bG004;bG005;bG006;bG006A;bG007;bG007A;bG007B;bG008;bG009;bG010;bG011;bG011A;bG012
  bG013;bG014;bG015;bG016;bG017;bG018;bG019;bG020;bG020A;bG021;bG022;bG023;bG024;bG025;bG026;bG026A
  bG027;bG028;bG029;bG030;bG031;bG032;bG033;bG034;bG035;bG036;bG036A;bG037;bG037A;bG038;bG039;bG040
  bG041;bG042;bG043;bG043A;bG044;bG045;bG045A;bG046;bG047;bG048;bG049;bG050;bG051;bG052;bG053;bG054
  bH001;bH002;bH003;bH004;bH005;bH006;bH006A;bH007;bH008;bI001;bI002;bI003;bI004;bI005;bI005A;bI006
  bI007;bI008;bI009;bI009A;bI010;bI010A;bI011;bI011A;bI012;bI013;bI014;bI015;bK001;bK002;bK003
  bK004;bK005;bK006;bK007;bK008;bL001;bL002;bL002A;bL003;bL004;bL005;bL006;bL006A;bL007;bL008;bM001
  bM001A;bM001B;bM002;bM003;bM003A;bM004;bM005;bM006;bM007;bM008;bM009;bM010;bM010A;bM011;bM012
  bM012A;bM012B;bM012C;bM012D;bM012E;bM012F;bM012G;bM012H;bM013;bM014;bM015;bM015A;bM016;bM016A
  bM017;bM017A;bM018;bM019;bM020;bM021;bM022;bM022A;bM023;bM024;bM024A;bM025;bM026;bM027;bM028
  bM028A;bM029;bM030;bM031;bM031A;bM032;bM033;bM033A;bM033B;bM034;bM035;bM036;bM037;bM038;bM039
  bM040;bM040A;bM041;bM042;bM043;bM044;bN001;bN002;bN003;bN004;bN005;bN006;bN007;bN008;bN009;bN010
  bN011;bN012;bN013;bN014;bN015;bN016;bN017;bN018;bN018A;bN018B;bN019;bN020;bN021;bN022;bN023;bN024
  bN025;bN025A;bN026;bN027;bN028;bN029;bN030;bN031;bN032;bN033;bN033A;bN034;bN034A;bN035;bN035A
  bN036;bN037;bN037A;bN038;bN039;bN040;bN041;bN042;bNL001;bNL002;bNL003;bNL004;bNL005;bNL005A
  bNL006;bNL007;bNL008;bNL009;bNL010;bNL011;bNL012;bNL013;bNL014;bNL015;bNL016;bNL017;bNL017A
  bNL018;bNL019;bNL020;bNU001;bNU002;bNU003;bNU004;bNU005;bNU006;bNU007;bNU008;bNU009;bNU010
  bNU010A;bNU011;bNU011A;bNU012;bNU013;bNU014;bNU015;bNU016;bNU017;bNU018;bNU018A;bNU019;bNU020
  bNU021;bNU022;bNU022A;bO001;bO001A;bO002;bO003;bO004;bO005;bO005A;bO006;bO006A;bO006B;bO006C
  bO006D;bO006E;bO006F;bO007;bO008;bO009;bO010;bO010A;bO010B;bO010C;bO011;bO012;bO013;bO014;bO015
  bO016;bO017;bO018;bO019;bO019A;bO020;bO020A;bO021;bO022;bO023;bO024;bO024A;bO025;bO025A;bO026
  bO027;bO028;bO029;bO029A;bO030;bO030A;bO031;bO032;bO033;bO033A;bO034;bO035;bO036;bO036A;bO036B
  bO036C;bO036D;bO037;bO038;bO039;bO040;bO041;bO042;bO043;bO044;bO045;bO046;bO047;bO048;bO049;bO050
  bO050A;bO050B;bO051;bP001;bP001A;bP002;bP003;bP003A;bP004;bP005;bP006;bP007;bP008;bP009;bP010
  bP011;bQ001;bQ002;bQ003;bQ004;bQ005;bQ006;bQ007;bR001;bR002;bR002A;bR003;bR003A;bR003B;bR004
  bR005;bR006;bR007;bR008;bR009;bR010;bR010A;bR011;bR012;bR013;bR014;bR015;bR016;bR016A;bR017;bR018
  bR019;bR020;bR021;bR022;bR023;bR024;bR025;bR026;bR027;bR028;bR029;bS001;bS002;bS002A;bS003;bS004
  bS005;bS006;bS006A;bS007;bS008;bS009;bS010;bS011;bS012;bS013;bS014;bS014A;bS014B;bS015;bS016
  bS017;bS017A;bS018;bS019;bS020;bS021;bS022;bS023;bS024;bS025;bS026;bS026A;bS026B;bS027;bS028
  bS029;bS030;bS031;bS032;bS033;bS034;bS035;bS035A;bS036;bS037;bS038;bS039;bS040;bS041;bS042;bS043
  bS044;bS045;bS046;bT001;bT002;bT003;bT003A;bT004;bT005;bT006;bT007;bT007A;bT008;bT008A;bT009
  bT009A;bT010;bT011;bT011A;bT012;bT013;bT014;bT015;bT016;bT016A;bT017;bT018;bT019;bT020;bT021
  bT022;bT023;bT024;bT025;bT026;bT027;bT028;bT029;bT030;bT031;bT032;bT032A;bT033;bT033A;bT034;bT035
  bT036;bU001;bU002;bU003;bU004;bU005;bU006;bU006A;bU006B;bU007;bU008;bU009;bU010;bU011;bU012;bU013
  bU014;bU015;bU016;bU017;bU018;bU019;bU020;bU021;bU022;bU023;bU023A;bU024;bU025;bU026;bU027;bU028
  bU029;bU029A;bU030;bU031;bU032;bU032A;bU033;bU034;bU035;bU036;bU037;bU038;bU039;bU040;bU041;bU042
  bV001;bV001A;bV001B;bV001C;bV001D;bV001E;bV001F;bV001G;bV001H;bV001I;bV002;bV002A;bV003;bV004
  bV005;bV006;bV007;bV007A;bV007B;bV008;bV009;bV010;bV011;bV011A;bV011B;bV011C;bV012;bV012A;bV012B
  bV013;bV014;bV015;bV016;bV017;bV018;bV019;bV020;bV020A;bV020B;bV020C;bV020D;bV020E;bV020F;bV020G
  bV020H;bV020I;bV020J;bV020K;bV020L;bV021;bV022;bV023;bV023A;bV024;bV025;bV026;bV027;bV028;bV028A
  bV029;bV029A;bV030;bV030A;bV031;bV031A;bV032;bV033;bV033A;bV034;bV035;bV036;bV037;bV037A;bV038
  bV039;bV040;bV040A;bW001;bW002;bW003;bW003A;bW004;bW005;bW006;bW007;bW008;bW009;bW009A;bW010
  bW010A;bW011;bW012;bW013;bW014;bW014A;bW015;bW016;bW017;bW017A;bW018;bW018A;bW019;bW020;bW021
  bW022;bW023;bW024;bW024A;bW025;bX001;bX002;bX003;bX004;bX004A;bX004B;bX005;bX006;bX006A;bX007
  bX008;bX008A;bY001;bY001A;bY002;bY003;bY004;bY005;bY006;bY007;bY008;bZ001;bZ002;bZ002A;bZ002B
  bZ002C;bZ002D;bZ003;bZ003A;bZ003B;bZ004;bZ004A;bZ005;bZ005A;bZ006;bZ007;bZ008;bZ009;bZ010;bZ011
  bZ012;bZ013;bZ014;bZ015;bZ015A;bZ015B;bZ015C;bZ015D;bZ015E;bZ015F;bZ015G;bZ015H;bZ015I;bZ016
  bZ016A;bZ016B;bZ016C;bZ016D;bZ016E;bZ016F;bZ016G;bZ016H;bAA001;bAA002;bAA003;bAA004;bAA005;bAA006
  bAA007;bAA007A;bAA007B;bAA008;bAA009;bAA010;bAA011;bAA012;bAA013;bAA014;bAA015;bAA016;bAA017
  bAA018;bAA019;bAA020;bAA021;bAA022;bAA023;bAA024;bAA025;bAA026;bAA027;bAA028;bAA029;bAA030;bAA031
  bAA032;=13430;bVERTICAL JOINER;bHORIZONTAL JOINER;bINSERT AT TOP START;dBOTTOM START;dTOP END
  dBOTTOM END;bOVERLAY MIDDLE;bBEGIN SEGMENT;bEND SEGMENT;=14400;ANATOLIAN HIEROGLYPH A001;bA002
  bA003;bA004;bA005;bA006;bA007;bA008;bA009;bA010;bA010A;bA011;bA012;bA013;bA014;bA015;bA016;bA017
  bA018;bA019;bA020;bA021;bA022;bA023;bA024;bA025;bA026;bA026A;bA027;bA028;bA029;bA030;bA031;bA032
  bA033;bA034;bA035;bA036;bA037;bA038;bA039;bA039A;bA040;bA041;bA041A;bA042;bA043;bA044;bA045
  bA045A;bA046;bA046A;bA046B;bA047;bA048;bA049;bA050;bA051;bA052;bA053;bA054;bA055;bA056;bA057
  bA058;bA059;bA060;bA061;bA062;bA063;bA064;bA065;bA066;bA066A;bA066B;bA066C;bA067;bA068;bA069
  bA070;bA071;bA072;bA073;bA074;bA075;bA076;bA077;bA078;bA079;bA080;bA081;bA082;bA083;bA084;bA085
  bA086;bA087;bA088;bA089;bA090;bA091;bA092;bA093;bA094;bA095;bA096;bA097;bA097A;bA098;bA098A;bA099
  bA100;bA100A;bA101;bA101A;bA102;bA102A;bA103;bA104;bA104A;bA104B;bA104C;bA105;bA105A;bA105B;bA106
  bA107;bA107A;bA107B;bA107C;bA108;bA109;bA110;bA110A;bA110B;bA111;bA112;bA113;bA114;bA115;bA115A
  bA116;bA117;bA118;bA119;bA120;bA121;bA122;bA123;bA124;bA125;bA125A;bA126;bA127;bA128;bA129;bA130
  bA131;bA132;bA133;bA134;bA135;bA135A;bA136;bA137;bA138;bA139;bA140;bA141;bA142;bA143;bA144;bA145
  bA146;bA147;bA148;bA149;bA150;bA151;bA152;bA153;bA154;bA155;bA156;bA157;bA158;bA159;bA160;bA161
  bA162;bA163;bA164;bA165;bA166;bA167;bA168;bA169;bA170;bA171;bA172;bA173;bA174;bA175;bA176;bA177
  bA178;bA179;bA180;bA181;bA182;bA183;bA184;bA185;bA186;bA187;bA188;bA189;bA190;bA191;bA192;bA193
  bA194;bA195;bA196;bA197;bA198;bA199;bA200;bA201;bA202;bA202A;bA202B;bA203;bA204;bA205;bA206;bA207
  bA207A;bA208;bA209;bA209A;bA210;bA211;bA212;bA213;bA214;bA215;bA215A;bA216;bA216A;bA217;bA218
  bA219;bA220;bA221;bA222;bA223;bA224;bA225;bA226;bA227;bA227A;bA228;bA229;bA230;bA231;bA232;bA233
  bA234;bA235;bA236;bA237;bA238;bA239;bA240;bA241;bA242;bA243;bA244;bA245;bA246;bA247;bA248;bA249
  bA250;bA251;bA252;bA253;bA254;bA255;bA256;bA257;bA258;bA259;bA260;bA261;bA262;bA263;bA264;bA265
  bA266;bA267;bA267A;bA268;bA269;bA270;bA271;bA272;bA273;bA274;bA275;bA276;bA277;bA278;bA279;bA280
  bA281;bA282;bA283;bA284;bA285;bA286;bA287;bA288;bA289;bA289A;bA290;bA291;bA292;bA293;bA294;bA294A
  bA295;bA296;bA297;bA298;bA299;bA299A;bA300;bA301;bA302;bA303;bA304;bA305;bA306;bA307;bA308;bA309
  bA309A;bA310;bA311;bA312;bA313;bA314;bA315;bA316;bA317;bA318;bA319;bA320;bA321;bA322;bA323;bA324
  bA325;bA326;bA327;bA328;bA329;bA329A;bA330;bA331;bA332A;bA332B;bA332C;bA333;bA334;bA335;bA336
  bA336A;bA336B;bA336C;bA337;bA338;bA339;bA340;bA341;bA342;bA343;bA344;bA345;bA346;bA347;bA348
  bA349;bA350;bA351;bA352;bA353;bA354;bA355;bA356;bA357;bA358;bA359;bA359A;bA360;bA361;bA362;bA363
  bA364;bA364A;bA365;bA366;bA367;bA368;bA368A;bA369;bA370;bA371;bA371A;bA372;bA373;bA374;bA375
  bA376;bA377;bA378;bA379;bA380;bA381;bA381A;bA382;bA383 RA OR RI;bA383A;bA384;bA385;bA386;bA386A
  bA387;bA388;bA389;bA390;bA391;bA392;bA393 EIGHT;bA394;bA395;bA396;bA397;bA398;bA399;bA400;bA401
  bA402;bA403;bA404;bA405;bA406;bA407;bA408;bA409;bA410 BEGIN LOGOGRAM MARK
  bA410A END LOGOGRAM MARK;bA411;bA412;bA413;bA414;bA415;bA416;bA417;bA418;bA419;bA420;bA421;bA422
  bA423;bA424;bA425;bA426;bA427;bA428;bA429;bA430;bA431;bA432;bA433;bA434;bA435;bA436;bA437;bA438
  bA439;bA440;bA441;bA442;bA443;bA444;bA445;bA446;bA447;bA448;bA449;bA450;bA450A;bA451;bA452;bA453
  bA454;bA455;bA456;bA457;bA457A;bA458;bA459;bA460;bA461;bA462;bA463;bA464;bA465;bA466;bA467;bA468
  bA469;bA470;bA471;bA472;bA473;bA474;bA475;bA476;bA477;bA478;bA479;bA480;bA481;bA482;bA483;bA484
  bA485;bA486;bA487;bA488;bA489;bA490;bA491;bA492;bA493;bA494;bA495;bA496;bA497;bA501;bA502;bA503
  bA504;bA505;bA506;bA507;bA508;bA509;bA510;bA511;bA512;bA513;bA514;bA515;bA516;bA517;bA518;bA519
  bA520;bA521;bA522;bA523;bA524;bA525;bA526;bA527;bA528;bA529;bA530;=16800
  BAMUM LETTER PHASE-A NGKUE MFON;cGBIEE FON;cPON MFON PIPAEMGBIEE;ePIPAEMBA;cNAA MFON;cSHUENSHUET
  cTITA MFON;cNZA MFON;cSHINDA PA NJI;cPON PA NJI PIPAEMGBIEE;fPIPAEMBA;cMAEMBGBIEE;cTU MAEMBA
  cNGANGU;cMAEMVEUX;cMANSUAE;cMVEUAENGAM;cSEUNYAM;cNTOQPEN;cKEUKEUTNDA;cNKINDI;cSUU;cNGKUENZEUM
  cLAPAQ;cLET KUT;cNTAP MFAA;cMAEKEUP;cPASHAE;cGHEUAERAE;cPAMSHAE;cMON NGGEUAET;cNZUN MEUT
  cU YUQ NAE;cGHEUAEGHEUAE;cNTAP NTAA;cSISA;cMGBASA;cMEUNJOMNDEUQ;cMOOMPUQ;cKAFA;cPA LEERAEWA
  cNDA LEERAEWA;cPET;cMAEMKPEN;cNIKA;cPUP;cTUAEP;cLUAEP;cSONJAM;cTEUTEUWEN;cMAENYI;cKET
  cNDAANGGEUAET;cKUOQ;cMOOMEUT;cSHUM;cLOMMAE;cFIRI;cROM;cKPOQ;cSOQ;cMAP PIEET;cSHIRAE;cNTAP
  cSHOQ NSHUT YUM;cNYIT MONGKEUAEQ;cPAARAE;cNKAARAE;cUNKNOWN;cNGGEN;cMAESI;cNJAM;cMBANYI;cNYET
  cTEUAEN;cSOT;cPAAM;cNSHIEE;cMAEM;cNYI;cKAQ;cNSHA;cVEE;cLU;cNEN;cNAQ;cMBAQ;bPHASE-B NSHUET
  cTU MAEMGBIEE;cSIEE;cSET TU;cLOM NTEUM;cMBA MAELEE;cKIEEM;cYEURAE;cMBAARAE;cKAM;cPEESHI
  cYAFU LEERAEWA;cLAM NSHUT NYAM;cNTIEE SHEUOQ;cNDU NJAA;cGHEUGHEUAEM;cPIT;cTU NSIEE;cSHET NJAQ
  cSHEUAEQTU;cMFON TEUAEQ;cMBIT MBAAKET;cNYI NTEUM;cKEUPUQ;cGHEUGHEN;cKEUYEUX;cLAANAE;cPARUM;cVEUM
  cNGKINDI MVOP;cNGGEU MBU;cWUAET;cSAKEUAE;cTAAM;cMEUQ;cNGGUOQ;dLARGE;cMFIYAQ;cSUE;cMBEURI
  cMONTIEEN;cNYAEMAE;cPUNGAAM;cMEUT NGGEET;cFEUX;cMBUOQ;cFEE;cKEUAEM;cMA NJEUAENA;dNJUQA;cLET
  cNGGAAM;cNSEN;cMA;cKIQ;cNGOM;bPHASE-C NGKUE MAEMBA;cNZA;cYUM;cWANGKUOQ;cNGGEN;cNDEUAEREE;cNGKAQ
  cGHARAE;cMBEEKEET;cGBAYI;cNYIR MKPARAQ MEUN;cNTU MBIT;cMBEUM;cPIRIEEN;cNDOMBU;cMBAA CABBAGE-TREE
  cKEUSHEUAEP;cGHAP;cKEUKAQ;cYU MUOMAE;cNZEUM;cMBUE;cNSEUAEN;cMBIT;cYEUQ;cKPARAQ;cKAA;cSEUX;cNDIDA
  cTAASHAE;cNJUEQ;cTITA YUE;cSUAET;cNGGUAEN NYAM;cVEUX;cNANSANAQ;cMA KEUAERI;cNTAA;cNGGUON;cLAP
  cMBIRIEEN;cMGBASAQ;cNTEUNGBA;cTEUTEUX;cNGGUM;cFUE;cNDEUT;cNSA;cNSHAQ;cBUNG;cVEUAEPEN;cMBERAE;cRU
  cNJAEM;cLAM;cTITUAEP;cNSUOT NGOM;cNJEEEE;cKET;cNGGU;cMAESI;cMBUAEM;cLU;cKUT;cNJAM;cNGOM;cWUP
  cNGGUEET;cNSOM;cNTEN;cKUOP NKAARAE;cNSUN;cNDAM;cMA NSIEE;cYAA;cNDAP;cSHUEQ;cSETFON;cMBI;cMAEMBA
  cMBANYI;cKEUSEUX;cMBEUX;cKEUM;cMBAA PICKET;cYUWOQ;cNJEUX;cMIEE;cMUAE;cSHIQ;cKEN LAW;dFATIGUE
  cNGAQ;cNAQ;cLIQ;cPIN;cPEN;cTET;bPHASE-D MBUO;cWAP;cNJI;cMFON;cNJIEE;cLIEE;cNJEUT;cNSHEE;cNGGAAMAE
  cNYAM;cWUAEN;cNGKUN;cSHEE;cNGKAP;cKEUAETMEUN;cTEUT;cSHEUAE;cNJAP;cSUE;cKET;cYAEMMAE;cKUOM;cSAP
  cMFEUT;cNDEUX;cMALEERI;cMEUT;cSEUAEQ;cYEN;cNJEUAEM;cKEUOT MBUAE;cNGKEURI;cTU;cGHAA;cNGKYEE
  cFEUFEUAET;cNDEE;cMGBOFUM;cLEUAEP;cNDON;cMONI;cMGBEUN;cPUUT;cMGBIEE;cMFO;cLUM;cNSIEEP;cMBAA
  cKWAET;cNYET;cTEUAEN;cSOT;cYUWOQ;cKEUM;cRAEM;cTEEEE;cNGKEUAEQ;cMFEUAE;cNSIEET;cKEUP;cPIP;cPEUTAE
  cNYUE;cLET;cNGGAAM;cMFIEE;cNGGWAEN;cYUOM;cPAP;cYUOP;cNDAM;cNTEUM;cSUAE;cKUN;cNGGEUX;cNGKIEE;cTUOT
  cMEUN;cKUQ;cNSUM;cTEUN;cMAENJET;cNGGAP;cLEUM;cNGGUOM;cNSHUT;cNJUEQ;cGHEUAE;cKU;cREN OLD;cTAE;cTOQ
  cNYI;cRII;cLEEEE;cMEEEE;cM;cSUU;cMU;cSHII;cSHEUX;cKYEE;cNU;cSHU;cNTEE;cPEE;cNI;cSHOQ;cPUQ;cMVOP
  cLOQ;cREN MUCH;cTI;cNTUU;cMBAA SEVEN;cSAQ;cFAA;bPHASE-E NDAP;cTOON;cMBEUM;cLAP;cVOM;cLOON;cPAA
  cSOM;cRAQ;cNSHUOP;cNDUN;cPUAE;cTAM;cNGKA;cKPEUX;cWUO;cSEE;cNGGEUAET;cPAAM;cTOO;cKUOP;cLOM;cNSHIEE
  cNGOP;cMAEM;cNGKEUX;cNGOQ;cNSHUE;cRIMGBA;cNJEUX;cPEEM;cSAA;cNGGURAE;cMGBA;cGHEUX;cNGKEUAEM
  cNJAEMLI;cMAP;cLOOT;cNGGEEEE;cNDIQ;cTAEN NTEUM;cSET;cPUM;cNDAA SOFTNESS;cNGGUAESHAE NYAM;cYIEE
  cGHEUN;cTUAE;cYEUAE;cPO;cTUMAE;cKEUAE;cSUAEN;cTEUAEQ;cVEUAE;cWEUX;cLAAM;cPU;cTAAQ;cGHAAMAE
  cNGEUREUT;cSHEUAEQ;cMGBEN;cMBEE;cNZAQ;cNKOM;cGBET;cTUM;cKUET;cYAP;cNYI CLEAVER;cYIT;cMFEUQ;cNDIAQ
  cPIEEQ;cYUEQ;cLEUAEM;cFUE;cGBEUX;cNGKUP;cKET;cMAE;cNGKAAMI;cGHET;cFA;cNTUM;cPEUT;cYEUM;cNGGEUAE
  cNYI BETWEEN;cNZUQ;cPOON;cMIEE;cFUET;cNAE;cMUAE;cGHEUAE;cFU I;cMVI;cPUAQ;cNGKUM;cKUT;cPIET;cNTAP
  cYEUAET;cNGGUP;cPA PEOPLE;cFU CALL;cFOM;cNJEE;cA;cTOQ;cO;cI;cLAQ;cPA PLURAL;cTAA;cTAQ
  cNDAA MY HOUSE;cSHIQ;cYEUX;cNGUAE;cYUAEN;cYOQ SWIMMING;dCOVER;cYUQ;cYUN;cKEUX;cPEUX;cNJEE EPOCH
  cPUE;cWUE;cFEE;cVEE;cLU;cMI;cREUX;cRAE;cNGUAET;cNGA;cSHO;cSHOQ;cFU REMEDY;cNA;cPI;cLOQ;cKO;cMEN
  cMA;cMAQ;cTEU;cKI;cMON;cTEN;cFAQ;cGHOM;bPHASE-F KA;cU;cKU;cEE;cREE;cTAE;cNYI;cLA;cRII;cRIEE
  cMEEEE;cTAA;cNDAA;cNJAEM;cM;cSUU;cSHII;cSI;cSEUX;cKYEE;cKET;cNUAE;cNU;cNJUAE;cYOQ;cSHU;cYA;cNSHA
  cPEUX;cNTEE;cWUE;cPEE;cRU;cNI;cREUX;cKEN;cNGKWAEN;cNGGA;cSHO;cPUAE;cFOM;cWA;cLI;cLOQ;cKO;cMBEN
  cREN;cMA;cMO;cMBAA;cTET;cKPA;cSAMBA;cVUEQ;=16A40;MRO LETTER TA;bNGI;bYO;bMIM;bBA;bDA;bA;bPHI
  bKHAI;bHAO;bDAI;bCHU;bKEAAE;bOL;bMAEM;bNIN;bPA;bOO;bO;bRO;bSHI;bTHEA;bEA;bWA;bE;bKO;bLAN;bLA;bHAI
  bRI;bTEK;=16A60;aDIGIT ZERO;bONE;bTWO;bTHREE;bFOUR;bFIVE;bSIX;bSEVEN;bEIGHT;bNINE;=16A6E;aDANDA
  aDOUBLE DANDA;TANGSA LETTER OZ;bOC;bOQ;bOX;bAZ;bAC;bAQ;bAX;bVZ;bVC;bVQ;bVX;bEZ;bEC;bEQ;bEX;bIZ
  bIC;bIQ;bIX;bUZ;bUC;bUQ;bUX;bAWZ;bAWC;bAWQ;bAWX;bUIZ;bUIC;bUIQ;bUIX;bFINAL NG;bLONG UEX
  bSHORT UEZ;cAWX;bUEC;bUEZ;bUEQ;bUEX;bUIUZ;bUIUC;bUIUQ;bUIUX;bMZ;bMC;bMQ;bMX;bKA;bKHA;bGA;bNGA;bSA
  bYA;bWA;bPA;bNYA;bPHA;bBA;bMA;bNA;bHA;bLA;bHTA;bTA;bDA;bRA;bNHA;bSHA;bCA;bTSA;bGHA;bHTTA;bTHA;bXA
  bFA;bDHA;bCHA;bZA;=16AC0;aDIGIT ZERO;bONE;bTWO;bTHREE;bFOUR;bFIVE;bSIX;bSEVEN;bEIGHT;bNINE;=16AD0
  BASSA VAH LETTER ENNI;cKA;cSE;cFA;cMBE;cYIE;cGAH;cDHII;cKPAH;cJO;cHWAH;cWA;cZO;cGBU;cDO;cCE;cUWU
  cTO;cBA;cVU;cYEIN;cPA;cWADDA;cA;cO;cOO;cU;cEE;cE;cI;=16AF0;bCOMBINING HIGH TONE;cLOW TONE
  cMID TONE;cLOW-MID TONE;cHIGH-LOW TONE;bFULL STOP;=16B00;PAHAWH HMONG VOWEL KEEB;cKEEV;cKIB;cKIV
  cKAUB;cKAUV;cKUB;cKUV;cKEB;cKEV;cKAIB;cKAIV;cKOOB;cKOOV;cKAWB;cKAWV;cKUAB;cKUAV;cKOB;cKOV;cKIAB
  cKIAV;cKAB;cKAV;cKWB;cKWV;cKAAB;cKAAV;bCONSONANT VAU;cNTSAU;cLAU;cHAU;cNLAU;cRAU;cNKAU;cQHAU;cYAU
  cHLAU;cMAU;cCHAU;cNCHAU;cHNAU;cPLHAU;cNTHAU;cNAU;cAU;cXAU;cCAU;bMARK CIM TUB;dSO;dKES;dKHAV;dSUAM
  dHOM;dTAUM;bSIGN VOS THOM;dTSHAB CEEB;cCIM CHEEM;cVOS THIAB;dFEEM;cXYEEM NTXIV;dRHO;dTOV;dFAIB
  cVOS SEEV;cMEEJ SUAB;cVOS NRUA;cIB YAM;cXAUS;cCIM TSOV ROG;=16B50;bDIGIT ZERO;cONE;cTWO;cTHREE
  cFOUR;cFIVE;cSIX;cSEVEN;cEIGHT;cNINE;=16B5B;bNUMBER TENS;cHUNDREDS;cTEN THOUSANDS;cMILLIONS
  cHUNDRED MILLIONS;cTEN BILLIONS;cTRILLIONS;=16B63;bSIGN VOS LUB;cXYOO;cHLI;cTHIRD-STAGE HLI
  cZWJ THAJ;cHNUB;cNQIG;cXIAB;cNTUJ;cAV;cTXHEEJ CEEV;cMEEJ TSEEB;cTAU;cLOS;cMUS
  cCIM HAIS LUS NTOG NTOG;dCUAM TSHOOJ;dTXWV;eCHWV;dPUB DAWB;dNRES TOS;=16B7D;bCLAN SIGN TSHEEJ
  dYEEG;dLIS;dLAUJ;dXYOOJ;dKOO;dHAWJ;dMUAS;dTHOJ;dTSAB;dPHAB;dKHAB;dHAM;dVAJ;dFAJ;dYAJ;dTSWB;dKWM
  dVWJ;=16E40;MEDEFAIDRIN CAPITAL LETTER M;cS;cV;cW;cATIU;cZ;cKP;cP;cT;cG;cF;cI;cK;cA;cJ;cE;cB;cC
  cU;cYU;cL;cQ;cHP;cNY;cX;cD;cOE;cN;cR;cO;cAI;cY;aSMALL LETTER M;cS;cV;cW;cATIU;cZ;cKP;cP;cT;cG;cF
  cI;cK;cA;cJ;cE;cB;cC;cU;cYU;cL;cQ;cHP;cNY;cX;cD;cOE;cN;cR;cO;cAI;cY;aDIGIT ZERO;bONE;bTWO;bTHREE
  bFOUR;bFIVE;bSIX;bSEVEN;bEIGHT;bNINE;aNUMBER TEN;bELEVEN;bTWELVE;bTHIRTEEN;bFOURTEEN;bFIFTEEN
  bSIXTEEN;bSEVENTEEN;bEIGHTEEN;bNINETEEN;aDIGIT ONE ALTERNATE FORM;bTWO ALTERNATE FORM
  bTHREE ALTERNATE FORM;aCOMMA;aFULL STOP;aSYMBOL AIVA;aEXCLAMATION OH;=16F00;MIAO LETTER PA;bBA
  bYI PA;bPLA;bMA;bMHA;bARCHAIC MA;bFA;bVA;bVFA;bTA;bDA;bYI TTA;cTA;bTTA;bDDA;bNA;bNHA;bYI NNA
  bARCHAIC NA;bNNA;bNNHA;bLA;bLYA;bLHA;bLHYA;bTLHA;bDLHA;bTLHYA;bDLHYA;bKA;bGA;bYI KA;bQA;bQGA;bNGA
  bNGHA;bARCHAIC NGA;bHA;bXA;bGHA;bGHHA;bTSSA;bDZZA;bNYA;bNYHA;bTSHA;bDZHA;bYI TSHA;cDZHA
  bREFORMED TSHA;bSHA;bSSA;bZHA;bZSHA;bTSA;bDZA;bYI TSA;bSA;bZA;bZSA;bZZA;bZZSA;bARCHAIC ZZA;bZZYA
  bZZSYA;bWA;bAH;bHHA;bBRI;bSYI;bDZYI;bTE;bTSE;bRTE;=16F4F;aSIGN CONSONANT MODIFIER BAR
  aLETTER NASALIZATION;aSIGN ASPIRATION;bREFORMED VOICING;cASPIRATION;aVOWEL SIGN A;cAA;cAHH;cAN
  cANG;cO;cOO;cWO;cW;cE;cEN;cENG;cOEY;cI;cIA;cIAN;cIANG;cIO;cIE;cII;cIU;cING;cU;cUA;cUAN;cUANG;cUU
  cUEI;cUNG;cY;cYI;cAE;cAEE;cERR;cROUNDED ERR;cER;cROUNDED ER;cAI;cEI;cAU;cOU;cN;cNG;cUOG;cYUI;cOG
  cOER;cVW;cIG;cEA;cIONG;cUI;=16F8F;aTONE RIGHT;bTOP RIGHT;bABOVE;bBELOW;aLETTER TONE-2;bTONE-3
  bTONE-4;bTONE-5;bTONE-6;bTONE-7;bTONE-8;bREFORMED TONE-1;cTONE-2;cTONE-4;cTONE-5;cTONE-6;cTONE-8
  =16FE0;TANGUT ITERATION MARK;NUSHU ITERATION MARK;OLD CHINESE HOOK MARK;bITERATION MARK
  KHITAN SMALL SCRIPT FILLER;=16FF0;VIETNAMESE ALTERNATE READING MARK CA;dNHAY;=18800
  TANGUT COMPONENT-001;aCOMPONENT-002;aCOMPONENT-003;aCOMPONENT-004;aCOMPONENT-005;aCOMPONENT-006
  aCOMPONENT-007;aCOMPONENT-008;aCOMPONENT-009;aCOMPONENT-010;aCOMPONENT-011;aCOMPONENT-012
  aCOMPONENT-013;aCOMPONENT-014;aCOMPONENT-015;aCOMPONENT-016;aCOMPONENT-017;aCOMPONENT-018
  aCOMPONENT-019;aCOMPONENT-020;aCOMPONENT-021;aCOMPONENT-022;aCOMPONENT-023;aCOMPONENT-024
  aCOMPONENT-025;aCOMPONENT-026;aCOMPONENT-027;aCOMPONENT-028;aCOMPONENT-029;aCOMPONENT-030
  aCOMPONENT-031;aCOMPONENT-032;aCOMPONENT-033;aCOMPONENT-034;aCOMPONENT-035;aCOMPONENT-036
  aCOMPONENT-037;aCOMPONENT-038;aCOMPONENT-039;aCOMPONENT-040;aCOMPONENT-041;aCOMPONENT-042
  aCOMPONENT-043;aCOMPONENT-044;aCOMPONENT-045;aCOMPONENT-046;aCOMPONENT-047;aCOMPONENT-048
  aCOMPONENT-049;aCOMPONENT-050;aCOMPONENT-051;aCOMPONENT-052;aCOMPONENT-053;aCOMPONENT-054
  aCOMPONENT-055;aCOMPONENT-056;aCOMPONENT-057;aCOMPONENT-058;aCOMPONENT-059;aCOMPONENT-060
  aCOMPONENT-061;aCOMPONENT-062;aCOMPONENT-063;aCOMPONENT-064;aCOMPONENT-065;aCOMPONENT-066
  aCOMPONENT-067;aCOMPONENT-068;aCOMPONENT-069;aCOMPONENT-070;aCOMPONENT-071;aCOMPONENT-072
  aCOMPONENT-073;aCOMPONENT-074;aCOMPONENT-075;aCOMPONENT-076;aCOMPONENT-077;aCOMPONENT-078
  aCOMPONENT-079;aCOMPONENT-080;aCOMPONENT-081;aCOMPONENT-082;aCOMPONENT-083;aCOMPONENT-084
  aCOMPONENT-085;aCOMPONENT-086;aCOMPONENT-087;aCOMPONENT-088;aCOMPONENT-089;aCOMPONENT-090
  aCOMPONENT-091;aCOMPONENT-092;aCOMPONENT-093;aCOMPONENT-094;aCOMPONENT-095;aCOMPONENT-096
  aCOMPONENT-097;aCOMPONENT-098;aCOMPONENT-099;aCOMPONENT-100;aCOMPONENT-101;aCOMPONENT-102
  aCOMPONENT-103;aCOMPONENT-104;aCOMPONENT-105;aCOMPONENT-106;aCOMPONENT-107;aCOMPONENT-108
  aCOMPONENT-109;aCOMPONENT-110;aCOMPONENT-111;aCOMPONENT-112;aCOMPONENT-113;aCOMPONENT-114
  aCOMPONENT-115;aCOMPONENT-116;aCOMPONENT-117;aCOMPONENT-118;aCOMPONENT-119;aCOMPONENT-120
  aCOMPONENT-121;aCOMPONENT-122;aCOMPONENT-123;aCOMPONENT-124;aCOMPONENT-125;aCOMPONENT-126
  aCOMPONENT-127;aCOMPONENT-128;aCOMPONENT-129;aCOMPONENT-130;aCOMPONENT-131;aCOMPONENT-132
  aCOMPONENT-133;aCOMPONENT-134;aCOMPONENT-135;aCOMPONENT-136;aCOMPONENT-137;aCOMPONENT-138
  aCOMPONENT-139;aCOMPONENT-140;aCOMPONENT-141;aCOMPONENT-142;aCOMPONENT-143;aCOMPONENT-144
  aCOMPONENT-145;aCOMPONENT-146;aCOMPONENT-147;aCOMPONENT-148;aCOMPONENT-149;aCOMPONENT-150
  aCOMPONENT-151;aCOMPONENT-152;aCOMPONENT-153;aCOMPONENT-154;aCOMPONENT-155;aCOMPONENT-156
  aCOMPONENT-157;aCOMPONENT-158;aCOMPONENT-159;aCOMPONENT-160;aCOMPONENT-161;aCOMPONENT-162
  aCOMPONENT-163;aCOMPONENT-164;aCOMPONENT-165;aCOMPONENT-166;aCOMPONENT-167;aCOMPONENT-168
  aCOMPONENT-169;aCOMPONENT-170;aCOMPONENT-171;aCOMPONENT-172;aCOMPONENT-173;aCOMPONENT-174
  aCOMPONENT-175;aCOMPONENT-176;aCOMPONENT-177;aCOMPONENT-178;aCOMPONENT-179;aCOMPONENT-180
  aCOMPONENT-181;aCOMPONENT-182;aCOMPONENT-183;aCOMPONENT-184;aCOMPONENT-185;aCOMPONENT-186
  aCOMPONENT-187;aCOMPONENT-188;aCOMPONENT-189;aCOMPONENT-190;aCOMPONENT-191;aCOMPONENT-192
  aCOMPONENT-193;aCOMPONENT-194;aCOMPONENT-195;aCOMPONENT-196;aCOMPONENT-197;aCOMPONENT-198
  aCOMPONENT-199;aCOMPONENT-200;aCOMPONENT-201;aCOMPONENT-202;aCOMPONENT-203;aCOMPONENT-204
  aCOMPONENT-205;aCOMPONENT-206;aCOMPONENT-207;aCOMPONENT-208;aCOMPONENT-209;aCOMPONENT-210
  aCOMPONENT-211;aCOMPONENT-212;aCOMPONENT-213;aCOMPONENT-214;aCOMPONENT-215;aCOMPONENT-216
  aCOMPONENT-217;aCOMPONENT-218;aCOMPONENT-219;aCOMPONENT-220;aCOMPONENT-221;aCOMPONENT-222
  aCOMPONENT-223;aCOMPONENT-224;aCOMPONENT-225;aCOMPONENT-226;aCOMPONENT-227;aCOMPONENT-228
  aCOMPONENT-229;aCOMPONENT-230;aCOMPONENT-231;aCOMPONENT-232;aCOMPONENT-233;aCOMPONENT-234
  aCOMPONENT-235;aCOMPONENT-236;aCOMPONENT-237;aCOMPONENT-238;aCOMPONENT-239;aCOMPONENT-240
  aCOMPONENT-241;aCOMPONENT-242;aCOMPONENT-243;aCOMPONENT-244;aCOMPONENT-245;aCOMPONENT-246
  aCOMPONENT-247;aCOMPONENT-248;aCOMPONENT-249;aCOMPONENT-250;aCOMPONENT-251;aCOMPONENT-252
  aCOMPONENT-253;aCOMPONENT-254;aCOMPONENT-255;aCOMPONENT-256;aCOMPONENT-257;aCOMPONENT-258
  aCOMPONENT-259;aCOMPONENT-260;aCOMPONENT-261;aCOMPONENT-262;aCOMPONENT-263;aCOMPONENT-264
  aCOMPONENT-265;aCOMPONENT-266;aCOMPONENT-267;aCOMPONENT-268;aCOMPONENT-269;aCOMPONENT-270
  aCOMPONENT-271;aCOMPONENT-272;aCOMPONENT-273;aCOMPONENT-274;aCOMPONENT-275;aCOMPONENT-276
  aCOMPONENT-277;aCOMPONENT-278;aCOMPONENT-279;aCOMPONENT-280;aCOMPONENT-281;aCOMPONENT-282
  aCOMPONENT-283;aCOMPONENT-284;aCOMPONENT-285;aCOMPONENT-286;aCOMPONENT-287;aCOMPONENT-288
  aCOMPONENT-289;aCOMPONENT-290;aCOMPONENT-291;aCOMPONENT-292;aCOMPONENT-293;aCOMPONENT-294
  aCOMPONENT-295;aCOMPONENT-296;aCOMPONENT-297;aCOMPONENT-298;aCOMPONENT-299;aCOMPONENT-300
  aCOMPONENT-301;aCOMPONENT-302;aCOMPONENT-303;aCOMPONENT-304;aCOMPONENT-305;aCOMPONENT-306
  aCOMPONENT-307;aCOMPONENT-308;aCOMPONENT-309;aCOMPONENT-310;aCOMPONENT-311;aCOMPONENT-312
  aCOMPONENT-313;aCOMPONENT-314;aCOMPONENT-315;aCOMPONENT-316;aCOMPONENT-317;aCOMPONENT-318
  aCOMPONENT-319;aCOMPONENT-320;aCOMPONENT-321;aCOMPONENT-322;aCOMPONENT-323;aCOMPONENT-324
  aCOMPONENT-325;aCOMPONENT-326;aCOMPONENT-327;aCOMPONENT-328;aCOMPONENT-329;aCOMPONENT-330
  aCOMPONENT-331;aCOMPONENT-332;aCOMPONENT-333;aCOMPONENT-334;aCOMPONENT-335;aCOMPONENT-336
  aCOMPONENT-337;aCOMPONENT-338;aCOMPONENT-339;aCOMPONENT-340;aCOMPONENT-341;aCOMPONENT-342
  aCOMPONENT-343;aCOMPONENT-344;aCOMPONENT-345;aCOMPONENT-346;aCOMPONENT-347;aCOMPONENT-348
  aCOMPONENT-349;aCOMPONENT-350;aCOMPONENT-351;aCOMPONENT-352;aCOMPONENT-353;aCOMPONENT-354
  aCOMPONENT-355;aCOMPONENT-356;aCOMPONENT-357;aCOMPONENT-358;aCOMPONENT-359;aCOMPONENT-360
  aCOMPONENT-361;aCOMPONENT-362;aCOMPONENT-363;aCOMPONENT-364;aCOMPONENT-365;aCOMPONENT-366
  aCOMPONENT-367;aCOMPONENT-368;aCOMPONENT-369;aCOMPONENT-370;aCOMPONENT-371;aCOMPONENT-372
  aCOMPONENT-373;aCOMPONENT-374;aCOMPONENT-375;aCOMPONENT-376;aCOMPONENT-377;aCOMPONENT-378
  aCOMPONENT-379;aCOMPONENT-380;aCOMPONENT-381;aCOMPONENT-382;aCOMPONENT-383;aCOMPONENT-384
  aCOMPONENT-385;aCOMPONENT-386;aCOMPONENT-387;aCOMPONENT-388;aCOMPONENT-389;aCOMPONENT-390
  aCOMPONENT-391;aCOMPONENT-392;aCOMPONENT-393;aCOMPONENT-394;aCOMPONENT-395;aCOMPONENT-396
  aCOMPONENT-397;aCOMPONENT-398;aCOMPONENT-399;aCOMPONENT-400;aCOMPONENT-401;aCOMPONENT-402
  aCOMPONENT-403;aCOMPONENT-404;aCOMPONENT-405;aCOMPONENT-406;aCOMPONENT-407;aCOMPONENT-408
  aCOMPONENT-409;aCOMPONENT-410;aCOMPONENT-411;aCOMPONENT-412;aCOMPONENT-413;aCOMPONENT-414
  aCOMPONENT-415;aCOMPONENT-416;aCOMPONENT-417;aCOMPONENT-418;aCOMPONENT-419;aCOMPONENT-420
  aCOMPONENT-421;aCOMPONENT-422;aCOMPONENT-423;aCOMPONENT-424;aCOMPONENT-425;aCOMPONENT-426
  aCOMPONENT-427;aCOMPONENT-428;aCOMPONENT-429;aCOMPONENT-430;aCOMPONENT-431;aCOMPONENT-432
  aCOMPONENT-433;aCOMPONENT-434;aCOMPONENT-435;aCOMPONENT-436;aCOMPONENT-437;aCOMPONENT-438
  aCOMPONENT-439;aCOMPONENT-440;aCOMPONENT-441;aCOMPONENT-442;aCOMPONENT-443;aCOMPONENT-444
  aCOMPONENT-445;aCOMPONENT-446;aCOMPONENT-447;aCOMPONENT-448;aCOMPONENT-449;aCOMPONENT-450
  aCOMPONENT-451;aCOMPONENT-452;aCOMPONENT-453;aCOMPONENT-454;aCOMPONENT-455;aCOMPONENT-456
  aCOMPONENT-457;aCOMPONENT-458;aCOMPONENT-459;aCOMPONENT-460;aCOMPONENT-461;aCOMPONENT-462
  aCOMPONENT-463;aCOMPONENT-464;aCOMPONENT-465;aCOMPONENT-466;aCOMPONENT-467;aCOMPONENT-468
  aCOMPONENT-469;aCOMPONENT-470;aCOMPONENT-471;aCOMPONENT-472;aCOMPONENT-473;aCOMPONENT-474
  aCOMPONENT-475;aCOMPONENT-476;aCOMPONENT-477;aCOMPONENT-478;aCOMPONENT-479;aCOMPONENT-480
  aCOMPONENT-481;aCOMPONENT-482;aCOMPONENT-483;aCOMPONENT-484;aCOMPONENT-485;aCOMPONENT-486
  aCOMPONENT-487;aCOMPONENT-488;aCOMPONENT-489;aCOMPONENT-490;aCOMPONENT-491;aCOMPONENT-492
  aCOMPONENT-493;aCOMPONENT-494;aCOMPONENT-495;aCOMPONENT-496;aCOMPONENT-497;aCOMPONENT-498
  aCOMPONENT-499;aCOMPONENT-500;aCOMPONENT-501;aCOMPONENT-502;aCOMPONENT-503;aCOMPONENT-504
  aCOMPONENT-505;aCOMPONENT-506;aCOMPONENT-507;aCOMPONENT-508;aCOMPONENT-509;aCOMPONENT-510
  aCOMPONENT-511;aCOMPONENT-512;aCOMPONENT-513;aCOMPONENT-514;aCOMPONENT-515;aCOMPONENT-516
  aCOMPONENT-517;aCOMPONENT-518;aCOMPONENT-519;aCOMPONENT-520;aCOMPONENT-521;aCOMPONENT-522
  aCOMPONENT-523;aCOMPONENT-524;aCOMPONENT-525;aCOMPONENT-526;aCOMPONENT-527;aCOMPONENT-528
  aCOMPONENT-529;aCOMPONENT-530;aCOMPONENT-531;aCOMPONENT-532;aCOMPONENT-533;aCOMPONENT-534
  aCOMPONENT-535;aCOMPONENT-536;aCOMPONENT-537;aCOMPONENT-538;aCOMPONENT-539;aCOMPONENT-540
  aCOMPONENT-541;aCOMPONENT-542;aCOMPONENT-543;aCOMPONENT-544;aCOMPONENT-545;aCOMPONENT-546
  aCOMPONENT-547;aCOMPONENT-548;aCOMPONENT-549;aCOMPONENT-550;aCOMPONENT-551;aCOMPONENT-552
  aCOMPONENT-553;aCOMPONENT-554;aCOMPONENT-555;aCOMPONENT-556;aCOMPONENT-557;aCOMPONENT-558
  aCOMPONENT-559;aCOMPONENT-560;aCOMPONENT-561;aCOMPONENT-562;aCOMPONENT-563;aCOMPONENT-564
  aCOMPONENT-565;aCOMPONENT-566;aCOMPONENT-567;aCOMPONENT-568;aCOMPONENT-569;aCOMPONENT-570
  aCOMPONENT-571;aCOMPONENT-572;aCOMPONENT-573;aCOMPONENT-574;aCOMPONENT-575;aCOMPONENT-576
  aCOMPONENT-577;aCOMPONENT-578;aCOMPONENT-579;aCOMPONENT-580;aCOMPONENT-581;aCOMPONENT-582
  aCOMPONENT-583;aCOMPONENT-584;aCOMPONENT-585;aCOMPONENT-586;aCOMPONENT-587;aCOMPONENT-588
  aCOMPONENT-589;aCOMPONENT-590;aCOMPONENT-591;aCOMPONENT-592;aCOMPONENT-593;aCOMPONENT-594
  aCOMPONENT-595;aCOMPONENT-596;aCOMPONENT-597;aCOMPONENT-598;aCOMPONENT-599;aCOMPONENT-600
  aCOMPONENT-601;aCOMPONENT-602;aCOMPONENT-603;aCOMPONENT-604;aCOMPONENT-605;aCOMPONENT-606
  aCOMPONENT-607;aCOMPONENT-608;aCOMPONENT-609;aCOMPONENT-610;aCOMPONENT-611;aCOMPONENT-612
  aCOMPONENT-613;aCOMPONENT-614;aCOMPONENT-615;aCOMPONENT-616;aCOMPONENT-617;aCOMPONENT-618
  aCOMPONENT-619;aCOMPONENT-620;aCOMPONENT-621;aCOMPONENT-622;aCOMPONENT-623;aCOMPONENT-624
  aCOMPONENT-625;aCOMPONENT-626;aCOMPONENT-627;aCOMPONENT-628;aCOMPONENT-629;aCOMPONENT-630
  aCOMPONENT-631;aCOMPONENT-632;aCOMPONENT-633;aCOMPONENT-634;aCOMPONENT-635;aCOMPONENT-636
  aCOMPONENT-637;aCOMPONENT-638;aCOMPONENT-639;aCOMPONENT-640;aCOMPONENT-641;aCOMPONENT-642
  aCOMPONENT-643;aCOMPONENT-644;aCOMPONENT-645;aCOMPONENT-646;aCOMPONENT-647;aCOMPONENT-648
  aCOMPONENT-649;aCOMPONENT-650;aCOMPONENT-651;aCOMPONENT-652;aCOMPONENT-653;aCOMPONENT-654
  aCOMPONENT-655;aCOMPONENT-656;aCOMPONENT-657;aCOMPONENT-658;aCOMPONENT-659;aCOMPONENT-660
  aCOMPONENT-661;aCOMPONENT-662;aCOMPONENT-663;aCOMPONENT-664;aCOMPONENT-665;aCOMPONENT-666
  aCOMPONENT-667;aCOMPONENT-668;aCOMPONENT-669;aCOMPONENT-670;aCOMPONENT-671;aCOMPONENT-672
  aCOMPONENT-673;aCOMPONENT-674;aCOMPONENT-675;aCOMPONENT-676;aCOMPONENT-677;aCOMPONENT-678
  aCOMPONENT-679;aCOMPONENT-680;aCOMPONENT-681;aCOMPONENT-682;aCOMPONENT-683;aCOMPONENT-684
  aCOMPONENT-685;aCOMPONENT-686;aCOMPONENT-687;aCOMPONENT-688;aCOMPONENT-689;aCOMPONENT-690
  aCOMPONENT-691;aCOMPONENT-692;aCOMPONENT-693;aCOMPONENT-694;aCOMPONENT-695;aCOMPONENT-696
  aCOMPONENT-697;aCOMPONENT-698;aCOMPONENT-699;aCOMPONENT-700;aCOMPONENT-701;aCOMPONENT-702
  aCOMPONENT-703;aCOMPONENT-704;aCOMPONENT-705;aCOMPONENT-706;aCOMPONENT-707;aCOMPONENT-708
  aCOMPONENT-709;aCOMPONENT-710;aCOMPONENT-711;aCOMPONENT-712;aCOMPONENT-713;aCOMPONENT-714
  aCOMPONENT-715;aCOMPONENT-716;aCOMPONENT-717;aCOMPONENT-718;aCOMPONENT-719;aCOMPONENT-720
  aCOMPONENT-721;aCOMPONENT-722;aCOMPONENT-723;aCOMPONENT-724;aCOMPONENT-725;aCOMPONENT-726
  aCOMPONENT-727;aCOMPONENT-728;aCOMPONENT-729;aCOMPONENT-730;aCOMPONENT-731;aCOMPONENT-732
  aCOMPONENT-733;aCOMPONENT-734;aCOMPONENT-735;aCOMPONENT-736;aCOMPONENT-737;aCOMPONENT-738
  aCOMPONENT-739;aCOMPONENT-740;aCOMPONENT-741;aCOMPONENT-742;aCOMPONENT-743;aCOMPONENT-744
  aCOMPONENT-745;aCOMPONENT-746;aCOMPONENT-747;aCOMPONENT-748;aCOMPONENT-749;aCOMPONENT-750
  aCOMPONENT-751;aCOMPONENT-752;aCOMPONENT-753;aCOMPONENT-754;aCOMPONENT-755;aCOMPONENT-756
  aCOMPONENT-757;aCOMPONENT-758;aCOMPONENT-759;aCOMPONENT-760;aCOMPONENT-761;aCOMPONENT-762
  aCOMPONENT-763;aCOMPONENT-764;aCOMPONENT-765;aCOMPONENT-766;aCOMPONENT-767;aCOMPONENT-768;=1AFF0
  KATAKANA LETTER MINNAN TONE-2;cTONE-3;cTONE-4;cTONE-5;=1AFF5;cTONE-7;cTONE-8;cNASALIZED TONE-1
  dTONE-2;dTONE-3;dTONE-4;dTONE-5;=1AFFD;dTONE-7;dTONE-8;=1B000;bARCHAIC E
  HIRAGANA LETTER ARCHAIC YE;HENTAIGANA LETTER A-1;bA-2;bA-3;bA-WO;bI-1;bI-2;bI-3;bI-4;bU-1;bU-2
  bU-3;bU-4;bU-5;bE-2;bE-3;bE-4;bE-5;bE-6;bO-1;bO-2;bO-3;bKA-1;bKA-2;bKA-3;bKA-4;bKA-5;bKA-6;bKA-7
  bKA-8;bKA-9;bKA-10;bKA-11;bKA-KE;bKI-1;bKI-2;bKI-3;bKI-4;bKI-5;bKI-6;bKI-7;bKI-8;bKU-1;bKU-2
  bKU-3;bKU-4;bKU-5;bKU-6;bKU-7;bKE-1;bKE-2;bKE-3;bKE-4;bKE-5;bKE-6;bKO-1;bKO-2;bKO-3;bKO-KI;bSA-1
  bSA-2;bSA-3;bSA-4;bSA-5;bSA-6;bSA-7;bSA-8;bSI-1;bSI-2;bSI-3;bSI-4;bSI-5;bSI-6;bSU-1;bSU-2;bSU-3
  bSU-4;bSU-5;bSU-6;bSU-7;bSU-8;bSE-1;bSE-2;bSE-3;bSE-4;bSE-5;bSO-1;bSO-2;bSO-3;bSO-4;bSO-5;bSO-6
  bSO-7;bTA-1;bTA-2;bTA-3;bTA-4;bTI-1;bTI-2;bTI-3;bTI-4;bTI-5;bTI-6;bTI-7;bTU-1;bTU-2;bTU-3;bTU-4
  bTU-TO;bTE-1;bTE-2;bTE-3;bTE-4;bTE-5;bTE-6;bTE-7;bTE-8;bTE-9;bTO-1;bTO-2;bTO-3;bTO-4;bTO-5;bTO-6
  bTO-RA;bNA-1;bNA-2;bNA-3;bNA-4;bNA-5;bNA-6;bNA-7;bNA-8;bNA-9;bNI-1;bNI-2;bNI-3;bNI-4;bNI-5;bNI-6
  bNI-7;bNI-TE;bNU-1;bNU-2;bNU-3;bNE-1;bNE-2;bNE-3;bNE-4;bNE-5;bNE-6;bNE-KO;bNO-1;bNO-2;bNO-3;bNO-4
  bNO-5;bHA-1;bHA-2;bHA-3;bHA-4;bHA-5;bHA-6;bHA-7;bHA-8;bHA-9;bHA-10;bHA-11;bHI-1;bHI-2;bHI-3;bHI-4
  bHI-5;bHI-6;bHI-7;bHU-1;bHU-2;bHU-3;bHE-1;bHE-2;bHE-3;bHE-4;bHE-5;bHE-6;bHE-7;bHO-1;bHO-2;bHO-3
  bHO-4;bHO-5;bHO-6;bHO-7;bHO-8;bMA-1;bMA-2;bMA-3;bMA-4;bMA-5;bMA-6;bMA-7;bMI-1;bMI-2;bMI-3;bMI-4
  bMI-5;bMI-6;bMI-7;bMU-1;bMU-2;bMU-3;bMU-4;bME-1;bME-2;bME-MA;bMO-1;bMO-2;bMO-3;bMO-4;bMO-5;bMO-6
  bYA-1;bYA-2;bYA-3;bYA-4;bYA-5;bYA-YO;bYU-1;bYU-2;bYU-3;bYU-4;bYO-1;bYO-2;bYO-3;bYO-4;bYO-5;bYO-6
  bRA-1;bRA-2;bRA-3;bRA-4;bRI-1;bRI-2;bRI-3;bRI-4;bRI-5;bRI-6;bRI-7;bRU-1;bRU-2;bRU-3;bRU-4;bRU-5
  bRU-6;bRE-1;bRE-2;bRE-3;bRE-4;bRO-1;bRO-2;bRO-3;bRO-4;bRO-5;bRO-6;bWA-1;bWA-2;bWA-3;bWA-4;bWA-5
  bWI-1;bWI-2;bWI-3;bWI-4;bWI-5;bWE-1;bWE-2;bWE-3;bWE-4;bWO-1;bWO-2;bWO-3;bWO-4;bWO-5;bWO-6;bWO-7
  bN-MU-MO-1;bN-MU-MO-2;HIRAGANA LETTER ARCHAIC WU;KATAKANA LETTER ARCHAIC YI;cYE;cWU;=1B150
  HIRAGANA LETTER SMALL WI;cWE;cWO;=1B164;KATAKANA LETTER SMALL WI;cWE;cWO;cN;=1BC00
  DUPLOYAN LETTER H;bX;bP;bT;bF;bK;bL;bB;bD;bV;bG;bR;bP N;bD S;bF N;bK M;bR S;bTH;bSLOAN DH;bDH;bKK
  bSLOAN J;bHL;bLH;bRH;bM;bN;bJ;bS;bM N;bN M;bJ M;bS J;bM WITH DOT;bN WITH DOT;bJ WITH DOT
  dDOTS INSIDE AND ABOVE;bS WITH DOT;eBELOW;bM S;bN S;bJ S;bS S;bM N S;bN M S;bJ M S;bS J S
  bJ S WITH DOT;cN;dS;bS T;dR;cP;dR;bT S;cR S;bW;bWH;bW R;bS N;cM;bK R S;bG R S;bS K;dR;bA
  bSLOAN OW;bOA;bO;bAOU;bI;bE;bIE;bSHORT I;bUI;bEE;bSLOAN EH;bROMANIAN I;bSLOAN EE;bLONG I;bYE;bU
  bEU;bXW;bU N;bLONG U;bROMANIAN U;bUH;bSLOAN U;bOOH;bOW;bOU;bWA;bWO;bWI;bWEI;bWOW;bNASAL U;cO;cI
  cA;bPERNIN AN;cAM;bSLOAN EN;cAN;cON;bVOCALIC M;=1BC70;aAFFIX LEFT HORIZONTAL SECANT
  bMID HORIZONTAL SECANT;bRIGHT HORIZONTAL SECANT;bLOW VERTICAL SECANT;bMID VERTICAL SECANT
  bHIGH VERTICAL SECANT;bATTACHED SECANT;cLEFT-TO-RIGHT SECANT;cTANGENT;cTAIL;cE HOOK;cI HOOK
  cTANGENT HOOK;=1BC80;bHIGH ACUTE;cTIGHT ACUTE;cGRAVE;cLONG GRAVE;cDOT;cCIRCLE;cLINE;cWAVE
  cVERTICAL;=1BC90;bLOW ACUTE;cTIGHT ACUTE;cGRAVE;cLONG GRAVE;cDOT;cCIRCLE;cLINE;cWAVE;cVERTICAL
  cARROW;=1BC9C;aSIGN O WITH CROSS;aTHICK LETTER SELECTOR;aDOUBLE MARK
  aPUNCTUATION CHINOOK FULL STOP;SHORTHAND FORMAT LETTER OVERLAP;bCONTINUING OVERLAP;bDOWN STEP
  bUP STEP;=1CF00;ZNAMENNY COMBINING MARK GORAZDO NIZKO S KRYZHEM ON LEFT;cNIZKO S KRYZHEM ON LEFT
  cTSATA ON LEFT;cGORAZDO NIZKO ON LEFT;cNIZKO ON LEFT;cSREDNE ON LEFT;cMALO POVYSHE ON LEFT
  cPOVYSHE ON LEFT;cVYSOKO ON LEFT;cMALO POVYSHE S KHOKHLOM ON LEFT;cPOVYSHE S KHOKHLOM ON LEFT
  cVYSOKO S KHOKHLOM ON LEFT;cGORAZDO NIZKO S KRYZHEM ON RIGHT;cNIZKO S KRYZHEM ON RIGHT
  cTSATA ON RIGHT;cGORAZDO NIZKO ON RIGHT;cNIZKO ON RIGHT;cSREDNE ON RIGHT;cMALO POVYSHE ON RIGHT
  cPOVYSHE ON RIGHT;cVYSOKO ON RIGHT;cMALO POVYSHE S KHOKHLOM ON RIGHT;cPOVYSHE S KHOKHLOM ON RIGHT
  cVYSOKO S KHOKHLOM ON RIGHT;cTSATA S KRYZHEM;cMALO POVYSHE S KRYZHEM;cSTRANNO MALO POVYSHE
  cPOVYSHE S KRYZHEM;dSTRANNO;cVYSOKO S KRYZHEM;cMALO POVYSHE STRANNO;cGORAZDO VYSOKO;cZELO;cON
  cRAVNO;cTIKHAYA;cBORZAYA;cUDARKA;cPODVERTKA;cLOMKA;cKUPNAYA;cKACHKA;cZEVOK;cSKOBA;cRAZSEKA
  cKRYZH ON LEFT;=1CF30;bTONAL RANGE MARK MRACHNO;eSVETLO;eTRESVETLO;bMARK ZADERZHKA
  cDEMESTVENNY ZADERZHKA;cOTSECHKA;cPODCHASHIE;dWITH VERTICAL STROKE;cCHASHKA;dPOLNAYA;cOBLACHKO
  cSOROCHYA NOZHKA;cTOCHKA;cDVOETOCHIE;bATTACHING VERTICAL OMET;bMARK CURVED OMET;cKRYZH
  bLOWER TONAL RANGE INDICATOR;aPRIZNAK MODIFIER LEVEL-2;cLEVEL-3;cDIRECTION FLIP;cKRYZH;cROG
  =1CF50;aNEUME KRYUK;cTIKHY;bPARAKLIT;bDVA V CHELNU;bKLYUCH;bZANOZHEK;bSTOPITSA;cS OCHKOM
  bPEREVODKA;cNEPOSTOYANNAYA;bSTOPITSA WITH SOROCHYA NOZHKA;bCHELYUSTKA;bPALKA;bZAPYATAYA
  bGOLUBCHIK BORZY;cTIKHY;cMRACHNY;cSVETLY;cTRESVETLY;bVRAKHIYA PROSTAYA;cMRACHNAYA;cSVETLAYA
  cTRESVETLAYA;cKLYUCHEVAYA PROSTAYA;dMRACHNAYA;dSVETLAYA;dTRESVETLAYA;bDOUBLE ZAPYATAYA
  bREVERSED CHELYUSTKA;bDERBITSA;bKHAMILO;bCHASHKA;bPODCHASHIE;bSKAMEYTSA MRACHNAYA;cSVETLAYA
  cTRESVETLAYA;cTIKHAYA;bDEMESTVENNY KLYUCH;bSKAMEYTSA KLYUCHEVAYA SVETLAYA;cKLYUCHENEPOSTOYANNAYA
  cKLYUCHEVAYA TIKHAYA;cDVOECHELNAYA PROSTAYA;dSVETLAYA;dNEPOSTOYANNAYA;dKLYUCHEVAYA;bSLOZHITIE
  cS ZAPYATOY;cZAKRYTOE;cS KRYZHEM;bKRYZH;bROG;bFITA;bKOBYLA;bZMEYTSA;bSTATYA;cS ZAPYATOY;dKRYZHEM
  dZAPYATOY I KRYZHEM;dKRYZHEM I ZAPYATOY;cZAKRYTAYA;dS ZAPYATOY;cS ROGOM;dDVUMYA ZAPYATYMI
  dZAPYATOY I PODCHASHIEM;bPOLKULIZMY;bSTATYA NEPOSTOYANNAYA;bSTRELA PROSTAYA;cMRACHNOTIKHAYA
  cKRYZHEVAYA;cPOLUPOVODNAYA;cPOVODNAYA;cNEPOSTOYANNAYA;cKLYUCHEPOVODNAYA;cKLYUCHENEPOSTOYANNAYA
  cTIKHAYA PUTNAYA;cDVOECHELNAYA;cDVOECHELNOKRYZHEVAYA;cDVOECHELNOPOVODNAYA
  cDVOECHELNAYA KLYUCHEVAYA;cDVOECHELNOPOVODNAYA KLYUCHEVAYA;cGROMNAYA WITH SINGLE ZAPYATAYA
  cGROMOPOVODNAYA WITH SINGLE ZAPYATAYA;cGROMNAYA;cGROMOPOVODNAYA;dWITH DOUBLE ZAPYATAYA
  cGROMOKRYZHEVAYA;dPOVODNAYA;bMECHIK;cPOVODNY;cKLYUCHEVOY;cKLYUCHEPOVODNY;cKLYUCHENEPOSTOYANNY
  bSTRELA TRYASOGLASNAYA;cTRYASOPOVODNAYA;cTRYASOSTRELNAYA;bOSOKA;cSVETLAYA;cTRESVETLAYA
  cKRYUKOVAYA SVETLAYA;cKLYUCHEVAYA SVETLAYA;dNEPOSTOYANNAYA;bSTRELA KRYUKOVAYA;dPOVODNAYA
  dGROMNAYA WITH SINGLE ZAPYATAYA;dGROMOPOVODNAYA WITH SINGLE ZAPYATAYA;dGROMNAYA;dGROMOPOVODNAYA
  eWITH DOUBLE ZAPYATAYA;dGROMOKRYZHEVAYA;ePOVODNAYA;dTRYASKA;bKUFISMA;bOBLAKO;bDUDA;bNEMKA;bPAUK
  =1D000;BYZANTINE MUSICAL SYMBOL PSILI;cDASEIA;cPERISPOMENI;cOXEIA EKFONITIKON;dDIPLI
  cVAREIA EKFONITIKON;dDIPLI;cKATHISTI;cSYRMATIKI;cPARAKLITIKI;cYPOKRISIS;dDIPLI;cKREMASTI
  cAPESO EKFONITIKON;cEXO EKFONITIKON;cTELEIA;cKENTIMATA;cAPOSTROFOS;dDIPLI;cSYNEVMA;cTHITA
  cOLIGON ARCHAION;cGORGON ARCHAION;cPSILON;cCHAMILON;cVATHY;cISON ARCHAION;cKENTIMA ARCHAION
  cKENTIMATA ARCHAION;cSAXIMATA;cPARICHON;cSTAVROS APODEXIA;cOXEIAI ARCHAION;cVAREIAI ARCHAION
  cAPODERMA ARCHAION;cAPOTHEMA;cKLASMA;cREVMA;cPIASMA ARCHAION;cTINAGMA;cANATRICHISMA;cSEISMA
  cSYNAGMA ARCHAION;dMETA STAVROU;cOYRANISMA ARCHAION;cTHEMA;cLEMOI;cDYO;cTRIA;cTESSERA;cKRATIMATA
  cAPESO EXO NEO;cFTHORA ARCHAION;cIMIFTHORA;cTROMIKON ARCHAION;cKATAVA TROMIKON;cPELASTON
  cPSIFISTON;cKONTEVMA;cCHOREVMA ARCHAION;cRAPISMA;cPARAKALESMA ARCHAION;cPARAKLITIKI ARCHAION
  cICHADIN;cNANA;cPETASMA;cKONTEVMA ALLO;cTROMIKON ALLO;cSTRAGGISMATA;cGRONTHISMATA;cISON NEO
  cOLIGON NEO;cOXEIA NEO;cPETASTI;cKOUFISMA;cPETASTOKOUFISMA;cKRATIMOKOUFISMA;cPELASTON NEO
  cKENTIMATA NEO ANO;cKENTIMA NEO ANO;cYPSILI;cAPOSTROFOS NEO;cAPOSTROFOI SYNDESMOS NEO;cYPORROI
  cKRATIMOYPORROON;cELAFRON;cCHAMILI;cMIKRON ISON;cVAREIA NEO;cPIASMA NEO;cPSIFISTON NEO;cOMALON
  cANTIKENOMA;cLYGISMA;cPARAKLITIKI NEO;cPARAKALESMA NEO;cETERON PARAKALESMA;cKYLISMA
  cANTIKENOKYLISMA;cTROMIKON NEO;cEKSTREPTON;cSYNAGMA NEO;cSYRMA;cCHOREVMA NEO;cEPEGERMA
  cSEISMA NEO;cXIRON KLASMA;cTROMIKOPSIFISTON;cPSIFISTOLYGISMA;cTROMIKOLYGISMA;cTROMIKOPARAKALESMA
  cPSIFISTOPARAKALESMA;cTROMIKOSYNAGMA;cPSIFISTOSYNAGMA;cGORGOSYNTHETON;cARGOSYNTHETON
  cETERON ARGOSYNTHETON;cOYRANISMA NEO;cTHEMATISMOS ESO;dEXO;cTHEMA APLOUN;cTHES KAI APOTHES
  cKATAVASMA;cENDOFONON;cYFEN KATO;dANO;cSTAVROS;cKLASMA ANO;cDIPLI ARCHAION;cKRATIMA ARCHAION
  dALLO;dNEO;cAPODERMA NEO;cAPLI;cDIPLI;cTRIPLI;cTETRAPLI;cKORONIS;cLEIMMA ENOS CHRONOU
  dDYO CHRONON;dTRION CHRONON;dTESSARON CHRONON;dIMISEOS CHRONOU;cGORGON NEO ANO
  dPARESTIGMENON ARISTERA;eDEXIA;cDIGORGON;dPARESTIGMENON ARISTERA KATO;fANO;eDEXIA;cTRIGORGON
  cARGON;cIMIDIARGON;cDIARGON;cAGOGI POLI ARGI;dARGOTERI;dARGI;dMETRIA;dMESI;dGORGI;dGORGOTERI
  dPOLI GORGI;cMARTYRIA PROTOS ICHOS;dALLI PROTOS ICHOS;dDEYTEROS ICHOS;dALLI DEYTEROS ICHOS
  dTRITOS ICHOS;dTRIFONIAS;dTETARTOS ICHOS;eLEGETOS ICHOS;dLEGETOS ICHOS;dPLAGIOS ICHOS
  cISAKIA TELOUS ICHIMATOS;cAPOSTROFOI TELOUS ICHIMATOS;cFANEROSIS TETRAFONIAS;dMONOFONIAS
  dDIFONIAS;cMARTYRIA VARYS ICHOS;dPROTOVARYS ICHOS;dPLAGIOS TETARTOS ICHOS;cGORTHMIKON N APLOUN
  eDIPLOUN;cENARXIS KAI FTHORA VOU;cIMIFONON;cIMIFTHORON;cFTHORA ARCHAION DEYTEROU ICHOU
  dDIATONIKI PA;eNANA;dNAOS ICHOS;dDIATONIKI DI;dSKLIRON DIATONON DI;dDIATONIKI KE;eZO;eNI KATO
  fANO;dMALAKON CHROMA DIFONIAS;fMONOFONIAS;cFHTORA SKLIRON CHROMA VASIS
  cFTHORA SKLIRON CHROMA SYNAFI;dNENANO;cCHROA ZYGOS;dKLITON;dSPATHI;cFTHORA I YFESIS TETARTIMORION
  dENARMONIOS ANTIFONIA;cYFESIS TRITIMORION;cDIESIS TRITIMORION;dTETARTIMORION;dAPLI DYO DODEKATA
  dMONOGRAMMOS TESSERA DODEKATA;dDIGRAMMOS EX DODEKATA;dTRIGRAMMOS OKTO DODEKATA
  cYFESIS APLI DYO DODEKATA;dMONOGRAMMOS TESSERA DODEKATA;dDIGRAMMOS EX DODEKATA
  dTRIGRAMMOS OKTO DODEKATA;cGENIKI DIESIS;dYFESIS;cDIASTOLI APLI MIKRI;eMEGALI;dDIPLI;dTHESEOS
  cSIMANSIS THESEOS;eDISIMOU;eTRISIMOU;eTETRASIMOU;dARSEOS;eDISIMOU;eTRISIMOU;eTETRASIMOU
  cDIGRAMMA GG;cDIFTOGGOS OU;cSTIGMA;cARKTIKO PA;dVOU;dGA;dDI;dKE;dZO;dNI;cKENTIMATA NEO MESO
  cKENTIMA NEO MESO;cKENTIMATA NEO KATO;cKENTIMA NEO KATO;cKLASMA KATO;cGORGON NEO KATO;=1D100
  MUSICAL SYMBOL SINGLE BARLINE;bDOUBLE BARLINE;bFINAL BARLINE;bREVERSE FINAL BARLINE
  bDASHED BARLINE;bSHORT BARLINE;bLEFT REPEAT SIGN;bRIGHT REPEAT SIGN;bREPEAT DOTS;bDAL SEGNO
  bDA CAPO;bSEGNO;bCODA;bREPEATED FIGURE-1;cFIGURE-2;cFIGURE-3;bFERMATA;cBELOW;bBREATH MARK
  bCAESURA;bBRACE;bBRACKET;bONE-LINE STAFF;bTWO-LINE STAFF;bTHREE-LINE STAFF;bFOUR-LINE STAFF
  bFIVE-LINE STAFF;bSIX-LINE STAFF;bSIX-STRING FRETBOARD;bFOUR-STRING FRETBOARD;bG CLEF
  dOTTAVA ALTA;eBASSA;bC CLEF;bF CLEF;dOTTAVA ALTA;eBASSA;bDRUM CLEF-1;cCLEF-2;=1D129
  bMULTIPLE MEASURE REST;bDOUBLE SHARP;cFLAT;bFLAT UP;cDOWN;bNATURAL UP;cDOWN;bSHARP UP;cDOWN
  bQUARTER TONE SHARP;dFLAT;bCOMMON TIME;bCUT TIME;bOTTAVA ALTA;cBASSA;bQUINDICESIMA ALTA;cBASSA
  bMULTI REST;bWHOLE REST;bHALF REST;bQUARTER REST;bEIGHTH REST;bSIXTEENTH REST;bTHIRTY-SECOND REST
  bSIXTY-FOURTH REST;bONE HUNDRED TWENTY-EIGHTH REST;bX NOTEHEAD;bPLUS NOTEHEAD;bCIRCLE X NOTEHEAD
  bSQUARE NOTEHEAD WHITE;dBLACK;bTRIANGLE NOTEHEAD UP WHITE;eBLACK;dLEFT WHITE;eBLACK;dRIGHT WHITE
  eBLACK;dDOWN WHITE;eBLACK;dUP RIGHT WHITE;fBLACK;bMOON NOTEHEAD WHITE;dBLACK
  bTRIANGLE-ROUND NOTEHEAD DOWN WHITE;eBLACK;bPARENTHESIS NOTEHEAD;bVOID NOTEHEAD;bNOTEHEAD BLACK
  bNULL NOTEHEAD;bCLUSTER NOTEHEAD WHITE;dBLACK;bBREVE;bWHOLE NOTE;bHALF NOTE;bQUARTER NOTE
  bEIGHTH NOTE;bSIXTEENTH NOTE;bTHIRTY-SECOND NOTE;bSIXTY-FOURTH NOTE
  bONE HUNDRED TWENTY-EIGHTH NOTE;bCOMBINING STEM;cSPRECHGESANG STEM;cTREMOLO-1;cTREMOLO-2
  cTREMOLO-3;bFINGERED TREMOLO-1;cTREMOLO-2;cTREMOLO-3;bCOMBINING AUGMENTATION DOT;cFLAG-1;cFLAG-2
  cFLAG-3;cFLAG-4;cFLAG-5;bBEGIN BEAM;bEND BEAM;bBEGIN TIE;bEND TIE;bBEGIN SLUR;bEND SLUR
  bBEGIN PHRASE;bEND PHRASE;bCOMBINING ACCENT;cSTACCATO;cTENUTO;cSTACCATISSIMO;cMARCATO
  cMARCATO-STACCATO;cACCENT-STACCATO;cLOURE;bARPEGGIATO UP;cDOWN;bCOMBINING DOIT;cRIP;cFLIP;cSMEAR
  cBEND;cDOUBLE TONGUE;cTRIPLE TONGUE;bRINFORZANDO;bSUBITO;bZ;bPIANO;bMEZZO;bFORTE;bCRESCENDO
  bDECRESCENDO;bGRACE NOTE SLASH;dNO SLASH;bTR;bTURN;bINVERTED TURN;bTURN SLASH;cUP
  bORNAMENT STROKE-1;cSTROKE-2;cSTROKE-3;cSTROKE-4;cSTROKE-5;cSTROKE-6;cSTROKE-7;cSTROKE-8
  cSTROKE-9;cSTROKE-10;cSTROKE-11;bHAUPTSTIMME;bNEBENSTIMME;bEND OF STIMME;bDEGREE SLASH
  bCOMBINING DOWN BOW;cUP BOW;cHARMONIC;cSNAP PIZZICATO;bPEDAL MARK;cUP MARK;bHALF PEDAL MARK
  bGLISSANDO UP;cDOWN;bWITH FINGERNAILS;bDAMP;cALL;bMAXIMA;bLONGA;bBREVIS;bSEMIBREVIS WHITE;cBLACK
  bMINIMA;cBLACK;bSEMIMINIMA WHITE;cBLACK;bFUSA WHITE;cBLACK;bLONGA PERFECTA REST;cIMPERFECTA REST
  bBREVIS REST;bSEMIBREVIS REST;bMINIMA REST;bSEMIMINIMA REST
  bTEMPUS PERFECTUM CUM PROLATIONE PERFECTA;fIMPERFECTA;fPERFECTA DIMINUTION-1
  cIMPERFECTUM CUM PROLATIONE PERFECTA;fIMPERFECTA;gDIMINUTION-1;gDIMINUTION-2;gDIMINUTION-3;bCROIX
  bGREGORIAN C CLEF;cF CLEF;bSQUARE B;bVIRGA;bPODATUS;bCLIVIS;bSCANDICUS;bCLIMACUS;bTORCULUS
  bPORRECTUS;cFLEXUS;bSCANDICUS FLEXUS;bTORCULUS RESUPINUS;bPES SUBPUNCTIS;bKIEVAN C CLEF
  cEND OF PIECE;cFINAL NOTE;cRECITATIVE MARK;cWHOLE NOTE;cHALF NOTE;cQUARTER NOTE STEM DOWN;fUP
  cEIGHTH NOTE STEM DOWN;fUP;cFLAT SIGN;bSORI;bKORON;=1D200;GREEK VOCAL NOTATION SYMBOL-1;cSYMBOL-2
  cSYMBOL-3;cSYMBOL-4;cSYMBOL-5;cSYMBOL-6;cSYMBOL-7;cSYMBOL-8;cSYMBOL-9;cSYMBOL-10;cSYMBOL-11
  cSYMBOL-12;cSYMBOL-13;cSYMBOL-14;cSYMBOL-15;cSYMBOL-16;cSYMBOL-17;cSYMBOL-18;cSYMBOL-19
  cSYMBOL-20;cSYMBOL-21;cSYMBOL-22;cSYMBOL-23;cSYMBOL-24;cSYMBOL-50;cSYMBOL-51;cSYMBOL-52
  cSYMBOL-53;cSYMBOL-54;aINSTRUMENTAL NOTATION SYMBOL-1;cSYMBOL-2;cSYMBOL-4;cSYMBOL-5;cSYMBOL-7
  cSYMBOL-8;cSYMBOL-11;cSYMBOL-12;cSYMBOL-13;cSYMBOL-14;cSYMBOL-17;cSYMBOL-18;cSYMBOL-19;cSYMBOL-23
  cSYMBOL-24;cSYMBOL-25;cSYMBOL-26;cSYMBOL-27;cSYMBOL-29;cSYMBOL-30;cSYMBOL-32;cSYMBOL-36
  cSYMBOL-37;cSYMBOL-38;cSYMBOL-39;cSYMBOL-40;cSYMBOL-42;cSYMBOL-43;cSYMBOL-45;cSYMBOL-47
  cSYMBOL-48;cSYMBOL-49;cSYMBOL-50;cSYMBOL-51;cSYMBOL-52;cSYMBOL-53;cSYMBOL-54
  COMBINING GREEK MUSICAL TRISEME;cTETRASEME;cPENTASEME;GREEK MUSICAL LEIMMA;=1D2E0
  MAYAN NUMERAL ZERO;bONE;bTWO;bTHREE;bFOUR;bFIVE;bSIX;bSEVEN;bEIGHT;bNINE;bTEN;bELEVEN;bTWELVE
  bTHIRTEEN;bFOURTEEN;bFIFTEEN;bSIXTEEN;bSEVENTEEN;bEIGHTEEN;bNINETEEN;=1D300;MONOGRAM FOR EARTH
  DIGRAM FOR HEAVENLY EARTH;bHUMAN EARTH;bEARTHLY HEAVEN;cHUMAN;bEARTH;TETRAGRAM FOR CENTRE
  bFULL CIRCLE;bMIRED;bBARRIER;bKEEPING SMALL;bCONTRARIETY;bASCENT;bOPPOSITION;bBRANCHING OUT
  bDEFECTIVENESS OR DISTORTION;bDIVERGENCE;bYOUTHFULNESS;bINCREASE;bPENETRATION;bREACH;bCONTACT
  bHOLDING BACK;bWAITING;bFOLLOWING;bADVANCE;bRELEASE;bRESISTANCE;bEASE;bJOY;bCONTENTION;bENDEAVOUR
  bDUTIES;bCHANGE;bDECISIVENESS;bBOLD RESOLUTION;bPACKING;bLEGION;bCLOSENESS;bKINSHIP;bGATHERING
  bSTRENGTH;bPURITY;bFULLNESS;bRESIDENCE;bLAW OR MODEL;bRESPONSE;bGOING TO MEET;bENCOUNTERS;bSTOVE
  bGREATNESS;bENLARGEMENT;bPATTERN;bRITUAL;bFLIGHT;bVASTNESS OR WASTING;bCONSTANCY;bMEASURE
  bETERNITY;bUNITY;bDIMINISHMENT;bCLOSED MOUTH;bGUARDEDNESS;bGATHERING IN;bMASSING;bACCUMULATION
  bEMBELLISHMENT;bDOUBT;bWATCH;bSINKING;bINNER;bDEPARTURE;bDARKENING;bDIMMING;bEXHAUSTION
  bSEVERANCE;bSTOPPAGE;bHARDNESS;bCOMPLETION;bCLOSURE;bFAILURE;bAGGRAVATION;bCOMPLIANCE
  bON THE VERGE;bDIFFICULTIES;bLABOURING;bFOSTERING;=1D360;COUNTING ROD UNIT DIGIT ONE;dTWO;dTHREE
  dFOUR;dFIVE;dSIX;dSEVEN;dEIGHT;dNINE;bTENS DIGIT ONE;dTWO;dTHREE;dFOUR;dFIVE;dSIX;dSEVEN;dEIGHT
  dNINE;IDEOGRAPHIC TALLY MARK ONE;cTWO;cTHREE;cFOUR;cFIVE;TALLY MARK ONE;bFIVE;=1D400
  MATHEMATICAL BOLD CAPITAL A;cB;cC;cD;cE;cF;cG;cH;cI;cJ;cK;cL;cM;cN;cO;cP;cQ;cR;cS;cT;cU;cV;cW;cX
  cY;cZ;bSMALL A;cB;cC;cD;cE;cF;cG;cH;cI;cJ;cK;cL;cM;cN;cO;cP;cQ;cR;cS;cT;cU;cV;cW;cX;cY;cZ
  aITALIC CAPITAL A;cB;cC;cD;cE;cF;cG;cH;cI;cJ;cK;cL;cM;cN;cO;cP;cQ;cR;cS;cT;cU;cV;cW;cX;cY;cZ
  bSMALL A;cB;cC;cD;cE;cF;cG;=1D456;cI;cJ;cK;cL;cM;cN;cO;cP;cQ;cR;cS;cT;cU;cV;cW;cX;cY;cZ
  aBOLD ITALIC CAPITAL A;dB;dC;dD;dE;dF;dG;dH;dI;dJ;dK;dL;dM;dN;dO;dP;dQ;dR;dS;dT;dU;dV;dW;dX;dY;dZ
  cSMALL A;dB;dC;dD;dE;dF;dG;dH;dI;dJ;dK;dL;dM;dN;dO;dP;dQ;dR;dS;dT;dU;dV;dW;dX;dY;dZ
  aSCRIPT CAPITAL A;=1D49E;cC;cD;=1D4A2;cG;=1D4A5;cJ;cK;=1D4A9;cN;cO;cP;cQ;=1D4AE;cS;cT;cU;cV;cW;cX
  cY;cZ;bSMALL A;cB;cC;cD;=1D4BB;cF;=1D4BD;cH;cI;cJ;cK;cL;cM;cN;=1D4C5;cP;cQ;cR;cS;cT;cU;cV;cW;cX
  cY;cZ;aBOLD SCRIPT CAPITAL A;dB;dC;dD;dE;dF;dG;dH;dI;dJ;dK;dL;dM;dN;dO;dP;dQ;dR;dS;dT;dU;dV;dW;dX
  dY;dZ;cSMALL A;dB;dC;dD;dE;dF;dG;dH;dI;dJ;dK;dL;dM;dN;dO;dP;dQ;dR;dS;dT;dU;dV;dW;dX;dY;dZ
  aFRAKTUR CAPITAL A;cB;=1D507;cD;cE;cF;cG;=1D50D;cJ;cK;cL;cM;cN;cO;cP;cQ;=1D516;cS;cT;cU;cV;cW;cX
  cY;=1D51E;bSMALL A;cB;cC;cD;cE;cF;cG;cH;cI;cJ;cK;cL;cM;cN;cO;cP;cQ;cR;cS;cT;cU;cV;cW;cX;cY;cZ
  aDOUBLE-STRUCK CAPITAL A;cB;=1D53B;cD;cE;cF;cG;=1D540;cI;cJ;cK;cL;cM;=1D546;cO;=1D54A;cS;cT;cU;cV
  cW;cX;cY;=1D552;bSMALL A;cB;cC;cD;cE;cF;cG;cH;cI;cJ;cK;cL;cM;cN;cO;cP;cQ;cR;cS;cT;cU;cV;cW;cX;cY
  cZ;aBOLD FRAKTUR CAPITAL A;dB;dC;dD;dE;dF;dG;dH;dI;dJ;dK;dL;dM;dN;dO;dP;dQ;dR;dS;dT;dU;dV;dW;dX
  dY;dZ;cSMALL A;dB;dC;dD;dE;dF;dG;dH;dI;dJ;dK;dL;dM;dN;dO;dP;dQ;dR;dS;dT;dU;dV;dW;dX;dY;dZ
  aSANS-SERIF CAPITAL A;cB;cC;cD;cE;cF;cG;cH;cI;cJ;cK;cL;cM;cN;cO;cP;cQ;cR;cS;cT;cU;cV;cW;cX;cY;cZ
  bSMALL A;cB;cC;cD;cE;cF;cG;cH;cI;cJ;cK;cL;cM;cN;cO;cP;cQ;cR;cS;cT;cU;cV;cW;cX;cY;cZ
  bBOLD CAPITAL A;dB;dC;dD;dE;dF;dG;dH;dI;dJ;dK;dL;dM;dN;dO;dP;dQ;dR;dS;dT;dU;dV;dW;dX;dY;dZ
  cSMALL A;dB;dC;dD;dE;dF;dG;dH;dI;dJ;dK;dL;dM;dN;dO;dP;dQ;dR;dS;dT;dU;dV;dW;dX;dY;dZ
  bITALIC CAPITAL A;dB;dC;dD;dE;dF;dG;dH;dI;dJ;dK;dL;dM;dN;dO;dP;dQ;dR;dS;dT;dU;dV;dW;dX;dY;dZ
  cSMALL A;dB;dC;dD;dE;dF;dG;dH;dI;dJ;dK;dL;dM;dN;dO;dP;dQ;dR;dS;dT;dU;dV;dW;dX;dY;dZ
  bBOLD ITALIC CAPITAL A;eB;eC;eD;eE;eF;eG;eH;eI;eJ;eK;eL;eM;eN;eO;eP;eQ;eR;eS;eT;eU;eV;eW;eX;eY;eZ
  dSMALL A;eB;eC;eD;eE;eF;eG;eH;eI;eJ;eK;eL;eM;eN;eO;eP;eQ;eR;eS;eT;eU;eV;eW;eX;eY;eZ
  aMONOSPACE CAPITAL A;cB;cC;cD;cE;cF;cG;cH;cI;cJ;cK;cL;cM;cN;cO;cP;cQ;cR;cS;cT;cU;cV;cW;cX;cY;cZ
  bSMALL A;cB;cC;cD;cE;cF;cG;cH;cI;cJ;cK;cL;cM;cN;cO;cP;cQ;cR;cS;cT;cU;cV;cW;cX;cY;cZ
  aITALIC SMALL DOTLESS I;dJ;=1D6A8;aBOLD CAPITAL ALPHA;cBETA;cGAMMA;cDELTA;cEPSILON;cZETA;cETA
  cTHETA;cIOTA;cKAPPA;cLAMDA;cMU;cNU;cXI;cOMICRON;cPI;cRHO;cTHETA SYMBOL;cSIGMA;cTAU;cUPSILON;cPHI
  cCHI;cPSI;cOMEGA;bNABLA;bSMALL ALPHA;cBETA;cGAMMA;cDELTA;cEPSILON;cZETA;cETA;cTHETA;cIOTA;cKAPPA
  cLAMDA;cMU;cNU;cXI;cOMICRON;cPI;cRHO;cFINAL SIGMA;cSIGMA;cTAU;cUPSILON;cPHI;cCHI;cPSI;cOMEGA
  bPARTIAL DIFFERENTIAL;bEPSILON SYMBOL;bTHETA SYMBOL;bKAPPA SYMBOL;bPHI SYMBOL;bRHO SYMBOL
  bPI SYMBOL;aITALIC CAPITAL ALPHA;cBETA;cGAMMA;cDELTA;cEPSILON;cZETA;cETA;cTHETA;cIOTA;cKAPPA
  cLAMDA;cMU;cNU;cXI;cOMICRON;cPI;cRHO;cTHETA SYMBOL;cSIGMA;cTAU;cUPSILON;cPHI;cCHI;cPSI;cOMEGA
  bNABLA;bSMALL ALPHA;cBETA;cGAMMA;cDELTA;cEPSILON;cZETA;cETA;cTHETA;cIOTA;cKAPPA;cLAMDA;cMU;cNU
  cXI;cOMICRON;cPI;cRHO;cFINAL SIGMA;cSIGMA;cTAU;cUPSILON;cPHI;cCHI;cPSI;cOMEGA
  bPARTIAL DIFFERENTIAL;bEPSILON SYMBOL;bTHETA SYMBOL;bKAPPA SYMBOL;bPHI SYMBOL;bRHO SYMBOL
  bPI SYMBOL;aBOLD ITALIC CAPITAL ALPHA;dBETA;dGAMMA;dDELTA;dEPSILON;dZETA;dETA;dTHETA;dIOTA;dKAPPA
  dLAMDA;dMU;dNU;dXI;dOMICRON;dPI;dRHO;dTHETA SYMBOL;dSIGMA;dTAU;dUPSILON;dPHI;dCHI;dPSI;dOMEGA
  cNABLA;cSMALL ALPHA;dBETA;dGAMMA;dDELTA;dEPSILON;dZETA;dETA;dTHETA;dIOTA;dKAPPA;dLAMDA;dMU;dNU
  dXI;dOMICRON;dPI;dRHO;dFINAL SIGMA;dSIGMA;dTAU;dUPSILON;dPHI;dCHI;dPSI;dOMEGA
  cPARTIAL DIFFERENTIAL;cEPSILON SYMBOL;cTHETA SYMBOL;cKAPPA SYMBOL;cPHI SYMBOL;cRHO SYMBOL
  cPI SYMBOL;aSANS-SERIF BOLD CAPITAL ALPHA;dBETA;dGAMMA;dDELTA;dEPSILON;dZETA;dETA;dTHETA;dIOTA
  dKAPPA;dLAMDA;dMU;dNU;dXI;dOMICRON;dPI;dRHO;dTHETA SYMBOL;dSIGMA;dTAU;dUPSILON;dPHI;dCHI;dPSI
  dOMEGA;cNABLA;cSMALL ALPHA;dBETA;dGAMMA;dDELTA;dEPSILON;dZETA;dETA;dTHETA;dIOTA;dKAPPA;dLAMDA;dMU
  dNU;dXI;dOMICRON;dPI;dRHO;dFINAL SIGMA;dSIGMA;dTAU;dUPSILON;dPHI;dCHI;dPSI;dOMEGA
  cPARTIAL DIFFERENTIAL;cEPSILON SYMBOL;cTHETA SYMBOL;cKAPPA SYMBOL;cPHI SYMBOL;cRHO SYMBOL
  cPI SYMBOL;cITALIC CAPITAL ALPHA;eBETA;eGAMMA;eDELTA;eEPSILON;eZETA;eETA;eTHETA;eIOTA;eKAPPA
  eLAMDA;eMU;eNU;eXI;eOMICRON;ePI;eRHO;eTHETA SYMBOL;eSIGMA;eTAU;eUPSILON;ePHI;eCHI;ePSI;eOMEGA
  dNABLA;dSMALL ALPHA;eBETA;eGAMMA;eDELTA;eEPSILON;eZETA;eETA;eTHETA;eIOTA;eKAPPA;eLAMDA;eMU;eNU
  eXI;eOMICRON;ePI;eRHO;eFINAL SIGMA;eSIGMA;eTAU;eUPSILON;ePHI;eCHI;ePSI;eOMEGA
  dPARTIAL DIFFERENTIAL;dEPSILON SYMBOL;dTHETA SYMBOL;dKAPPA SYMBOL;dPHI SYMBOL;dRHO SYMBOL
  dPI SYMBOL;aBOLD CAPITAL DIGAMMA;bSMALL DIGAMMA;=1D7CE;bDIGIT ZERO;cONE;cTWO;cTHREE;cFOUR;cFIVE
  cSIX;cSEVEN;cEIGHT;cNINE;aDOUBLE-STRUCK DIGIT ZERO;cONE;cTWO;cTHREE;cFOUR;cFIVE;cSIX;cSEVEN
  cEIGHT;cNINE;aSANS-SERIF DIGIT ZERO;cONE;cTWO;cTHREE;cFOUR;cFIVE;cSIX;cSEVEN;cEIGHT;cNINE
  bBOLD DIGIT ZERO;dONE;dTWO;dTHREE;dFOUR;dFIVE;dSIX;dSEVEN;dEIGHT;dNINE;aMONOSPACE DIGIT ZERO;cONE
  cTWO;cTHREE;cFOUR;cFIVE;cSIX;cSEVEN;cEIGHT;cNINE;SIGNWRITING HAND-FIST INDEX;aHAND-CIRCLE INDEX
  aHAND-CUP INDEX;aHAND-OVAL INDEX;aHAND-HINGE INDEX;aHAND-ANGLE INDEX;aHAND-FIST INDEX BENT
  aHAND-CIRCLE INDEX BENT;aHAND-FIST THUMB UNDER INDEX BENT;bINDEX RAISED KNUCKLE;cCUPPED;cHINGED
  dLOW;aHAND-CIRCLE INDEX HINGE;aHAND-FIST INDEX MIDDLE;aHAND-CIRCLE INDEX MIDDLE
  aHAND-FIST INDEX MIDDLE BENT;dRAISED KNUCKLES;dHINGED;cUP MIDDLE HINGED;cHINGED MIDDLE UP
  cMIDDLE CONJOINED;eINDEX BENT;eMIDDLE BENT;eCUPPED;eHINGED;dCROSSED
  aHAND-CIRCLE INDEX MIDDLE CROSSED;aHAND-FIST MIDDLE BENT OVER INDEX;bINDEX BENT OVER MIDDLE
  cMIDDLE THUMB;aHAND-CIRCLE INDEX MIDDLE THUMB;aHAND-FIST INDEX MIDDLE STRAIGHT THUMB BENT
  dBENT THUMB STRAIGHT;dTHUMB BENT;dHINGED SPREAD THUMB SIDE;cUP MIDDLE HINGED THUMB SIDE
  gCONJOINED;cHINGED MIDDLE UP THUMB SIDE;cMIDDLE UP SPREAD THUMB FORWARD;dTHUMB CUPPED;eCIRCLED
  eHOOKED;eHINGED;bTHUMB BETWEEN INDEX MIDDLE STRAIGHT;bINDEX MIDDLE CONJOINED THUMB SIDE
  gCONJOINED;gBENT;bMIDDLE THUMB HOOKED INDEX UP;bINDEX THUMB HOOKED MIDDLE UP
  cMIDDLE CONJOINED HINGED THUMB SIDE;dCROSSED THUMB SIDE;dCONJOINED THUMB FORWARD
  eCUPPED THUMB FORWARD;bMIDDLE THUMB CUPPED INDEX UP;bINDEX THUMB CUPPED MIDDLE UP
  bMIDDLE THUMB CIRCLED INDEX UP;fHINGED;bINDEX THUMB ANGLED OUT MIDDLE UP;eIN MIDDLE UP
  dCIRCLED MIDDLE UP;cMIDDLE THUMB CONJOINED HINGED;eANGLED OUT;eANGLED
  bMIDDLE THUMB ANGLED OUT INDEX UP;gCROSSED;eINDEX UP;bINDEX THUMB HOOKED MIDDLE HINGED
  aHAND-FLAT FOUR FINGERS;dBENT;dHINGED;dCONJOINED;eSPLIT;aHAND-CLAW FOUR FINGERS CONJOINED
  aHAND-FIST FOUR FINGERS CONJOINED BENT;aHAND-HINGE FOUR FINGERS CONJOINED
  aHAND-FLAT FIVE FINGERS SPREAD;bHEEL FIVE FINGERS SPREAD;bFIVE FINGERS SPREAD FOUR BENT
  bHEEL FIVE FINGERS SPREAD FOUR BENT;bFIVE FINGERS SPREAD BENT;bHEEL FIVE FINGERS SPREAD BENT
  bFIVE FINGERS SPREAD THUMB FORWARD;aHAND-CUP FIVE FINGERS SPREAD;eOPEN
  aHAND-HINGE FIVE FINGERS SPREAD OPEN;aHAND-OVAL FIVE FINGERS SPREAD
  aHAND-FLAT FIVE FINGERS SPREAD HINGED;fTHUMB SIDE;fNO THUMB;aHAND-FLAT;bBETWEEN PALM FACINGS
  bHEEL;bTHUMB SIDE;bHEEL THUMB SIDE;bTHUMB BENT;cFORWARD;bSPLIT INDEX THUMB SIDE;cCENTRE
  dTHUMB SIDE;fBENT;cLITTLE;aHAND-CLAW;bTHUMB SIDE;bNO THUMB;bTHUMB FORWARD;aHAND-HOOK CURLICUE
  aHAND-HOOK;aHAND-CUP OPEN;aHAND-CUP;bOPEN THUMB SIDE;bTHUMB SIDE;bOPEN NO THUMB;bNO THUMB
  bOPEN THUMB FORWARD;bTHUMB FORWARD;aHAND-CURLICUE OPEN;aHAND-CURLICUE;aHAND-CIRCLE;aHAND-OVAL
  bTHUMB SIDE;bNO THUMB;bTHUMB FORWARD;aHAND-HINGE OPEN;cTHUMB FORWARD;aHAND-HINGE;bSMALL
  bOPEN THUMB SIDE;bTHUMB SIDE;bOPEN NO THUMB;bNO THUMB;bTHUMB SIDE TOUCHING INDEX
  cBETWEEN MIDDLE RING;aHAND-ANGLE;aHAND-FIST INDEX MIDDLE RING;aHAND-CIRCLE INDEX MIDDLE RING
  aHAND-HINGE INDEX MIDDLE RING;aHAND-ANGLE INDEX MIDDLE RING;aHAND-HINGE LITTLE
  aHAND-FIST INDEX MIDDLE RING BENT;eCONJOINED;aHAND-HINGE INDEX MIDDLE RING CONJOINED
  aHAND-FIST LITTLE DOWN;dRIPPLE STRAIGHT;eCURVED;dOTHERS CIRCLED;cUP;bTHUMB UNDER LITTLE UP
  aHAND-CIRCLE LITTLE UP;aHAND-OVAL LITTLE UP;aHAND-ANGLE LITTLE UP
  aHAND-FIST LITTLE RAISED KNUCKLE;cBENT;cTOUCHES THUMB;cTHUMB;aHAND-HINGE LITTLE THUMB
  aHAND-FIST LITTLE INDEX THUMB;aHAND-HINGE LITTLE INDEX THUMB
  aHAND-ANGLE LITTLE INDEX THUMB INDEX THUMB OUT;fTHUMB;aHAND-FIST LITTLE INDEX
  aHAND-CIRCLE LITTLE INDEX;aHAND-HINGE LITTLE INDEX;aHAND-ANGLE LITTLE INDEX
  aHAND-FIST INDEX MIDDLE LITTLE;aHAND-CIRCLE INDEX MIDDLE LITTLE;aHAND-HINGE INDEX MIDDLE LITTLE
  bRING;aHAND-ANGLE INDEX MIDDLE LITTLE;aHAND-FIST INDEX MIDDLE CROSS LITTLE
  aHAND-CIRCLE INDEX MIDDLE CROSS LITTLE;aHAND-FIST RING DOWN
  aHAND-HINGE RING DOWN INDEX THUMB HOOK MIDDLE;aHAND-ANGLE RING DOWN MIDDLE THUMB INDEX CROSS
  aHAND-FIST RING UP;cRAISED KNUCKLE;cLITTLE;aHAND-CIRCLE RING LITTLE;aHAND-OVAL RING LITTLE
  aHAND-ANGLE RING LITTLE;aHAND-FIST RING MIDDLE;dCONJOINED;dRAISED KNUCKLES;cINDEX;cTHUMB
  aHAND-HOOK RING THUMB;aHAND-FIST INDEX RING LITTLE;aHAND-CIRCLE INDEX RING LITTLE
  aHAND-CURLICUE INDEX RING LITTLE ON;aHAND-HOOK INDEX RING LITTLE OUT;eIN;eUNDER
  aHAND-CUP INDEX RING LITTLE;aHAND-HINGE INDEX RING LITTLE;aHAND-ANGLE INDEX RING LITTLE OUT
  dLITTLE;aHAND-FIST MIDDLE DOWN;aHAND-HINGE MIDDLE;aHAND-FIST MIDDLE UP;aHAND-CIRCLE MIDDLE UP
  aHAND-FIST MIDDLE RAISED KNUCKLE;cUP THUMB SIDE;aHAND-HOOK MIDDLE THUMB
  aHAND-FIST MIDDLE THUMB LITTLE;cLITTLE;cRING LITTLE;aHAND-CIRCLE MIDDLE RING LITTLE
  aHAND-CURLICUE MIDDLE RING LITTLE ON;aHAND-CUP MIDDLE RING LITTLE;aHAND-HINGE MIDDLE RING LITTLE
  aHAND-ANGLE MIDDLE RING LITTLE OUT;eIN;dLITTLE;aHAND-CIRCLE MIDDLE RING LITTLE BENT
  aHAND-CLAW MIDDLE RING LITTLE CONJOINED;fSIDE;aHAND-HOOK MIDDLE RING LITTLE CONJOINED OUT;fIN
  eCONJOINED;aHAND-HINGE INDEX HINGED;aHAND-FIST INDEX THUMB SIDE;aHAND-HINGE INDEX THUMB SIDE
  aHAND-FIST INDEX THUMB SIDE THUMB DIAGONAL;fCONJOINED;fBENT;eINDEX BENT;eBOTH BENT;eINDEX HINGE
  dFORWARD INDEX STRAIGHT;fBENT;dHOOK;dCURLICUE;dCURVE THUMB INSIDE
  aHAND-CLAW INDEX THUMB CURVE THUMB INSIDE;aHAND-FIST INDEX THUMB CURVE THUMB UNDER;dCIRCLE
  aHAND-CUP INDEX THUMB;dOPEN;aHAND-HINGE INDEX THUMB OPEN;dLARGE;cTHUMB;dSMALL
  aHAND-ANGLE INDEX THUMB OUT;dIN;cTHUMB;aHAND-FIST THUMB;cHEEL;cSIDE DIAGONAL;dCONJOINED;dBENT
  cFORWARD;cBETWEEN INDEX MIDDLE;dMIDDLE RING;dRING LITTLE;cUNDER TWO FINGERS;cOVER TWO FINGERS
  cUNDER THREE FINGERS;dFOUR FINGERS;cOVER FOUR RAISED KNUCKLES;aHAND-FIST;bHEEL;aTOUCH SINGLE
  bMULTIPLE;bBETWEEN;aGRASP SINGLE;bMULTIPLE;bBETWEEN;aSTRIKE SINGLE;bMULTIPLE;bBETWEEN
  aBRUSH SINGLE;bMULTIPLE;bBETWEEN;aRUB SINGLE;bMULTIPLE;bBETWEEN;aSURFACE SYMBOLS;bBETWEEN
  aSQUEEZE LARGE SINGLE;bSMALL SINGLE;bLARGE MULTIPLE;bSMALL MULTIPLE;bSEQUENTIAL
  aFLICK LARGE SINGLE;bSMALL SINGLE;bLARGE MULTIPLE;bSMALL MULTIPLE;bSEQUENTIAL
  aSQUEEZE FLICK ALTERNATING;aMOVEMENT-HINGE UP DOWN LARGE;dSMALL;cSEQUENTIAL;bDOWN SEQUENTIAL
  bUP DOWN ALTERNATING LARGE;eSMALL;bSIDE TO SIDE SCISSORS;aMOVEMENT-WALLPLANE FINGER CONTACT
  aMOVEMENT-FLOORPLANE FINGER CONTACT;aMOVEMENT-WALLPLANE SINGLE STRAIGHT SMALL;dMEDIUM;dLARGE
  dLARGEST;cWRIST FLEX;bDOUBLE STRAIGHT;cWRIST FLEX;cALTERNATING;dWRIST FLEX;bCROSS
  bTRIPLE STRAIGHT MOVEMENT;cWRIST FLEX;cALTERNATING;dWRIST FLEX;bBEND SMALL;cMEDIUM;cLARGE
  bCORNER SMALL;cMEDIUM;cLARGE;cROTATION;bCHECK SMALL;cMEDIUM;cLARGE;bBOX SMALL;cMEDIUM;cLARGE
  bZIGZAG SMALL;cMEDIUM;cLARGE;bPEAKS SMALL;cMEDIUM;cLARGE
  aTRAVEL-WALLPLANE ROTATION-WALLPLANE SINGLE;cDOUBLE;cALTERNATING;bROTATION-FLOORPLANE SINGLE
  cDOUBLE;cALTERNATING;bSHAKING;bARM SPIRAL SINGLE;dDOUBLE;dTRIPLE;aMOVEMENT-DIAGONAL AWAY SMALL
  cMEDIUM;cLARGE;cLARGEST;bTOWARDS SMALL;cMEDIUM;cLARGE;cLARGEST;bBETWEEN AWAY SMALL;dMEDIUM;dLARGE
  dLARGEST;cTOWARDS SMALL;dMEDIUM;dLARGE;dLARGEST;aMOVEMENT-FLOORPLANE SINGLE STRAIGHT SMALL
  dMEDIUM;dLARGE;dLARGEST;cWRIST FLEX;bDOUBLE STRAIGHT;cWRIST FLEX;cALTERNATING;dWRIST FLEX;bCROSS
  bTRIPLE STRAIGHT MOVEMENT;cWRIST FLEX;cALTERNATING MOVEMENT;dWRIST FLEX;bBEND;bCORNER SMALL
  cMEDIUM;cLARGE;bCHECK;bBOX SMALL;cMEDIUM;cLARGE;bZIGZAG SMALL;cMEDIUM;cLARGE;bPEAKS SMALL;cMEDIUM
  cLARGE;aTRAVEL-FLOORPLANE ROTATION-FLOORPLANE SINGLE;cDOUBLE;cALTERNATING
  bROTATION-WALLPLANE SINGLE;cDOUBLE;cALTERNATING;bSHAKING;aMOVEMENT-WALLPLANE CURVE QUARTER SMALL
  dMEDIUM;dLARGE;dLARGEST;cHALF-CIRCLE SMALL;dMEDIUM;dLARGE;dLARGEST;cTHREE-QUARTER CIRCLE SMALL
  eMEDIUM;bHUMP SMALL;cMEDIUM;cLARGE;bLOOP SMALL;cMEDIUM;cLARGE;cSMALL DOUBLE
  bWAVE CURVE DOUBLE SMALL;eMEDIUM;eLARGE;dTRIPLE SMALL;eMEDIUM;eLARGE;bCURVE THEN STRAIGHT
  bCURVED CROSS SMALL;dMEDIUM;aROTATION-WALLPLANE SINGLE;bDOUBLE;bALTERNATE
  aMOVEMENT-WALLPLANE SHAKING;bCURVE HITTING FRONT WALL;bHUMP HITTING FRONT WALL
  bLOOP HITTING FRONT WALL;bWAVE HITTING FRONT WALL;aROTATION-WALLPLANE SINGLE HITTING FRONT WALL
  bDOUBLE HITTING FRONT WALL;bALTERNATING HITTING FRONT WALL
  aMOVEMENT-WALLPLANE CURVE HITTING CHEST;bHUMP HITTING CHEST;bLOOP HITTING CHEST
  bWAVE HITTING CHEST;aROTATION-WALLPLANE SINGLE HITTING CHEST;bDOUBLE HITTING CHEST
  bALTERNATING HITTING CHEST;aMOVEMENT-WALLPLANE WAVE DIAGONAL PATH SMALL;eMEDIUM;eLARGE
  aMOVEMENT-FLOORPLANE CURVE HITTING CEILING SMALL;eLARGE;bHUMP HITTING CEILING SMALL DOUBLE
  eLARGE DOUBLE;eSMALL TRIPLE;eLARGE TRIPLE;bLOOP HITTING CEILING SMALL SINGLE;eLARGE SINGLE
  eSMALL DOUBLE;eLARGE DOUBLE;bWAVE HITTING CEILING SMALL;eLARGE
  aROTATION-FLOORPLANE SINGLE HITTING CEILING;bDOUBLE HITTING CEILING;bALTERNATING HITTING CEILING
  aMOVEMENT-FLOORPLANE CURVE HITTING FLOOR SMALL;eLARGE;bHUMP HITTING FLOOR SMALL DOUBLE
  eLARGE DOUBLE;eTRIPLE SMALL TRIPLE;fLARGE TRIPLE;bLOOP HITTING FLOOR SMALL SINGLE;eLARGE SINGLE
  eSMALL DOUBLE;eLARGE DOUBLE;bWAVE HITTING FLOOR SMALL;eLARGE
  aROTATION-FLOORPLANE SINGLE HITTING FLOOR;bDOUBLE HITTING FLOOR;bALTERNATING HITTING FLOOR
  aMOVEMENT-FLOORPLANE CURVE SMALL;cMEDIUM;cLARGE;cLARGEST;cCOMBINED;bHUMP SMALL;bLOOP SMALL
  bWAVE SNAKE;cSMALL;cLARGE;aROTATION-FLOORPLANE SINGLE;bDOUBLE;bALTERNATING
  aMOVEMENT-FLOORPLANE SHAKING PARALLEL;aMOVEMENT-WALLPLANE ARM CIRCLE SMALL SINGLE;dMEDIUM SINGLE
  dSMALL DOUBLE;dMEDIUM DOUBLE;aMOVEMENT-FLOORPLANE ARM CIRCLE HITTING WALL SMALL SINGLE
  fMEDIUM SINGLE;fLARGE SINGLE;fSMALL DOUBLE;fMEDIUM DOUBLE;fLARGE DOUBLE
  aMOVEMENT-WALLPLANE WRIST CIRCLE FRONT SINGLE;eDOUBLE
  aMOVEMENT-FLOORPLANE WRIST CIRCLE HITTING WALL SINGLE;fDOUBLE
  aMOVEMENT-WALLPLANE FINGER CIRCLES SINGLE;dDOUBLE
  aMOVEMENT-FLOORPLANE FINGER CIRCLES HITTING WALL SINGLE;fDOUBLE;aDYNAMIC ARROWHEAD SMALL;cLARGE
  bFAST;bSLOW;bTENSE;bRELAXED;bSIMULTANEOUS;cALTERNATING;bEVERY OTHER TIME;bGRADUAL;aHEAD;bRIM
  bMOVEMENT-WALLPLANE STRAIGHT;cTILT;bMOVEMENT-FLOORPLANE STRAIGHT;bMOVEMENT-WALLPLANE CURVE
  bMOVEMENT-FLOORPLANE CURVE;bMOVEMENT CIRCLE;aFACE DIRECTION POSITION NOSE FORWARD TILTING
  eUP OR DOWN;hTILTING;aEYEBROWS STRAIGHT UP;cNEUTRAL;cDOWN;aDREAMY EYEBROWS NEUTRAL DOWN
  cDOWN NEUTRAL;cUP NEUTRAL;cNEUTRAL UP;aFOREHEAD NEUTRAL;bCONTACT;bWRINKLED;aEYES OPEN;bSQUEEZED
  bCLOSED;aEYE BLINK SINGLE;cMULTIPLE;aEYES HALF OPEN;bWIDE OPEN;bHALF CLOSED;bWIDENING MOVEMENT
  aEYE WINK;aEYELASHES UP;bDOWN;bFLUTTERING;aEYEGAZE-WALLPLANE STRAIGHT;cDOUBLE;cALTERNATING
  aEYEGAZE-FLOORPLANE STRAIGHT;cDOUBLE;cALTERNATING;aEYEGAZE-WALLPLANE CURVED
  aEYEGAZE-FLOORPLANE CURVED;aEYEGAZE-WALLPLANE CIRCLING;aCHEEKS PUFFED;bNEUTRAL;bSUCKED
  aTENSE CHEEKS HIGH;cMIDDLE;cLOW;aEARS;aNOSE NEUTRAL;bCONTACT;bWRINKLES;bWIGGLES;aAIR BLOWING OUT
  bSUCKING IN;bBLOW SMALL ROTATIONS;bSUCK SMALL ROTATIONS;aBREATH INHALE;bEXHALE
  aMOUTH CLOSED NEUTRAL;cFORWARD;cCONTACT;bSMILE;cWRINKLED;cOPEN;bFROWN;cWRINKLED;cOPEN
  bOPEN CIRCLE;cFORWARD;cWRINKLED;cOVAL;dWRINKLED;dYAWN;cRECTANGLE;dWRINKLED;dYAWN;bKISS;cFORWARD
  cWRINKLED;bTENSE;cFORWARD;cSUCKED;aLIPS PRESSED TOGETHER;aLIP LOWER OVER UPPER;bUPPER OVER LOWER
  aMOUTH CORNERS;bWRINKLES SINGLE;cDOUBLE;aTONGUE STICKING OUT FAR;bLICKING LIPS;bTIP BETWEEN LIPS
  cTOUCHING INSIDE MOUTH;bINSIDE MOUTH RELAXED;bMOVES AGAINST CHEEK;bCENTRE STICKING OUT
  cINSIDE MOUTH;aTEETH;bMOVEMENT;bON TONGUE;dMOVEMENT;cLIPS;dMOVEMENT;bBITE LIPS
  aMOVEMENT-WALLPLANE JAW;aMOVEMENT-FLOORPLANE JAW;aNECK;aHAIR;aEXCITEMENT;aSHOULDER HIP SPINE
  cPOSITIONS;aWALLPLANE SHOULDER HIP MOVE;aFLOORPLANE SHOULDER HIP MOVE
  aSHOULDER TILTING FROM WAIST;aTORSO-WALLPLANE STRAIGHT STRETCH;bCURVED BEND
  aTORSO-FLOORPLANE TWISTING;aUPPER BODY TILTING FROM HIP JOINTS;aLIMB COMBINATION;bLENGTH-1
  bLENGTH-2;bLENGTH-3;bLENGTH-4;bLENGTH-5;bLENGTH-6;bLENGTH-7;aFINGER;aLOCATION-WALLPLANE SPACE
  aLOCATION-FLOORPLANE SPACE;aLOCATION HEIGHT;bWIDTH;bDEPTH;bHEAD NECK;bTORSO;bLIMBS DIGITS;aCOMMA
  aFULL STOP;aSEMICOLON;aCOLON;aPARENTHESIS;=1DA9B;aFILL MODIFIER-2;bMODIFIER-3;bMODIFIER-4
  bMODIFIER-5;bMODIFIER-6;=1DAA1;aROTATION MODIFIER-2;bMODIFIER-3;bMODIFIER-4;bMODIFIER-5
  bMODIFIER-6;bMODIFIER-7;bMODIFIER-8;bMODIFIER-9;bMODIFIER-10;bMODIFIER-11;bMODIFIER-12
  bMODIFIER-13;bMODIFIER-14;bMODIFIER-15;bMODIFIER-16;=1DF00
  LATIN SMALL LETTER FENG DIGRAPH WITH TRILL;cREVERSED SCRIPT G;aLETTER SMALL CAPITAL TURNED G
  aSMALL LETTER REVERSED K;aLETTER SMALL CAPITAL L WITH BELT;aSMALL LETTER LEZH WITH RETROFLEX HOOK
  cTURNED Y WITH BELT;cREVERSED ENG;cTURNED R WITH LONG LEG AND RETROFLEX HOOK
  cT WITH HOOK AND RETROFLEX HOOK;aLETTER RETROFLEX CLICK WITH RETROFLEX HOOK
  aSMALL LETTER ESH WITH DOUBLE BAR;gAND CURL;cTURNED T WITH CURL
  aLETTER INVERTED GLOTTAL STOP WITH CURL;bSTRETCHED C WITH CURL;bSMALL CAPITAL TURNED K
  aSMALL LETTER L WITH FISHHOOK;cDEZH DIGRAPH WITH PALATAL HOOK;cL WITH BELT AND PALATAL HOOK
  cENG WITH PALATAL HOOK;cTURNED R WITH PALATAL HOOK;cR WITH FISHHOOK AND PALATAL HOOK
  cTESH DIGRAPH WITH PALATAL HOOK;cEZH WITH PALATAL HOOK;cDEZH DIGRAPH WITH RETROFLEX HOOK
  cI WITH STROKE AND RETROFLEX HOOK;cO WITH RETROFLEX HOOK;cTESH DIGRAPH WITH RETROFLEX HOOK
  cC WITH RETROFLEX HOOK;cS WITH CURL;=1E000;COMBINING GLAGOLITIC LETTER AZU;cBUKY;cVEDE;cGLAGOLI
  cDOBRO;cYESTU;cZHIVETE;=1E008;cZEMLJA;cIZHE;cINITIAL IZHE;cI;cDJERVI;cKAKO;cLJUDIJE;cMYSLITE
  cNASHI;cONU;cPOKOJI;cRITSI;cSLOVO;cTVRIDO;cUKU;cFRITU;cHERU;=1E01B;cSHTA;cTSI;cCHRIVI;cSHA;cYERU
  cYERI;cYATI;=1E023;cYU;cSMALL YUS;=1E026;cYO;cIOTATED SMALL YUS;cBIG YUS;cIOTATED BIG YUS;cFITA
  =1E100;NYIAKENG PUACHUE HMONG LETTER MA;dTSA;dNTA;dTA;dHA;dNA;dXA;dNKA;dCA;dLA;dSA;dZA;dNCA;dNTSA
  dKA;dDA;dNYA;dNRA;dVA;dNTXA;dTXA;dFA;dRA;dQA;dYA;dNQA;dPA;dXYA;dNPA;dDLA;dNPLA;dHAH;dMLA;dPLA;dGA
  dRRA;dA;dAA;dI;dU;dO;dOO;dE;dEE;dW;=1E130;cTONE-B;cTONE-M;cTONE-J;cTONE-V;cTONE-S;cTONE-G;cTONE-D
  cSIGN FOR PERSON;eTHING;eLOCATION;eANIMAL;eINVERTEBRATE;dXW XW;cSYLLABLE LENGTHENER;=1E140
  cDIGIT ZERO;dONE;dTWO;dTHREE;dFOUR;dFIVE;dSIX;dSEVEN;dEIGHT;dNINE;=1E14E;cLOGOGRAM NYAJ
  cCIRCLED CA;=1E290;TOTO LETTER PA;bBA;bTA;bDA;bKA;bGA;bMA;bNA;bNGA;bSA;bCHA;bYA;bWA;bJA;bHA;bRA
  bLA;bI;bBREATHY I;bIU;bBREATHY IU;bU;bE;bBREATHY E;bEO;bBREATHY EO;bO;bAE;bBREATHY AE;bA
  aSIGN RISING TONE;=1E2C0;WANCHO LETTER AA;bA;bBA;bCA;bDA;bGA;bYA;bPHA;bLA;bNA;bPA;bTA;bTHA;bFA
  bSA;bSHA;bJA;bZA;bWA;bVA;bKA;bO;bAU;bRA;bMA;bKHA;bHA;bE;bI;bNGA;bU;bLLHA;bTSA;bTRA;bONG;bAANG
  bANG;bING;bON;bEN;bAAN;bNYA;bUEN;bYIH;aTONE TUP;bTUPNI;bKOI;bKOINI;aDIGIT ZERO;bONE;bTWO;bTHREE
  bFOUR;bFIVE;bSIX;bSEVEN;bEIGHT;bNINE;=1E2FF;aNGUN SIGN;=1E7E0;ETHIOPIC SYLLABLE HHYA;bHHYU;bHHYI
  bHHYAA;bHHYEE;bHHYE;bHHYO;=1E7E8;bGURAGE HHWA;bHHWI;bHHWEE;bHHWE;=1E7ED;bGURAGE MWI;cMWEE;=1E7F0
  cQWI;cQWEE;cQWE;cBWI;cBWEE;cKWI;cKWEE;cKWE;cGWI;cGWEE;cGWE;cFWI;cFWEE;cPWI;cPWEE;=1E800
  MENDE KIKAKUI SYLLABLE M001 KI;cM002 KA;cM003 KU;cM065 KEE;cM095 KE;cM076 KOO;cM048 KO;cM179 KUA
  cM004 WI;cM005 WA;cM006 WU;cM126 WEE;cM118 WE;cM114 WOO;cM045 WO;cM194 WUI;cM143 WEI;cM061 WVI
  cM049 WVA;cM139 WVE;cM007 MIN;cM008 MAN;cM009 MUN;cM059 MEN;cM094 MON;cM154 MUAN;cM189 MUEN
  cM010 BI;cM011 BA;cM012 BU;cM150 BEE;cM097 BE;cM103 BOO;cM138 BO;cM013 I;cM014 A;cM015 U;cM163 EE
  cM100 E;cM165 OO;cM147 O;cM137 EI;cM131 IN;cM135 IN;cM195 AN;cM178 EN;cM019 SI;cM020 SA;cM021 SU
  cM162 SEE;cM116 SE;cM136 SOO;cM079 SO;cM196 SIA;cM025 LI;cM026 LA;cM027 LU;cM084 LEE;cM073 LE
  cM054 LOO;cM153 LO;cM110 LONG LE;cM016 DI;cM017 DA;cM018 DU;cM089 DEE;cM180 DOO;cM181 DO;cM022 TI
  cM023 TA;cM024 TU;cM091 TEE;cM055 TE;cM104 TOO;cM069 TO;cM028 JI;cM029 JA;cM030 JU;cM157 JEE
  cM113 JE;cM160 JOO;cM063 JO;cM175 LONG JO;cM031 YI;cM032 YA;cM033 YU;cM109 YEE;cM080 YE;cM141 YOO
  cM121 YO;cM034 FI;cM035 FA;cM036 FU;cM078 FEE;cM075 FE;cM133 FOO;cM088 FO;cM197 FUA;cM101 FAN
  cM037 NIN;cM038 NAN;cM039 NUN;cM117 NEN;cM169 NON;cM176 HI;cM041 HA;cM186 HU;cM040 HEE;cM096 HE
  cM042 HOO;cM140 HO;cM083 HEEI;cM128 HOOU;cM053 HIN;cM130 HAN;cM087 HUN;cM052 HEN;cM193 HON
  cM046 HUAN;cM090 NGGI;cM043 NGGA;cM082 NGGU;cM115 NGGEE;cM146 NGGE;cM156 NGGOO;cM120 NGGO
  cM159 NGGAA;cM127 NGGUA;cM086 LONG NGGE;cM106 LONG NGGOO;cM183 LONG NGGO;cM155 GI;cM111 GA
  cM168 GU;cM190 GEE;cM166 GUEI;cM167 GUAN;cM184 NGEN;cM057 NGON;cM177 NGUAN;cM068 PI;cM099 PA
  cM050 PU;cM081 PEE;cM051 PE;cM102 POO;cM066 PO;cM145 MBI;cM062 MBA;cM122 MBU;cM047 MBEE
  cM188 MBEE;cM072 MBE;cM172 MBOO;cM174 MBO;cM187 MBUU;cM161 LONG MBE;cM105 LONG MBOO
  cM142 LONG MBO;cM132 KPI;cM092 KPA;cM074 KPU;cM044 KPEE;cM108 KPE;cM112 KPOO;cM158 KPO;cM124 GBI
  cM056 GBA;cM148 GBU;cM093 GBEE;cM107 GBE;cM071 GBOO;cM070 GBO;cM171 RA;cM123 NDI;cM129 NDA
  cM125 NDU;cM191 NDEE;cM119 NDE;cM067 NDOO;cM064 NDO;cM152 NJA;cM192 NJU;cM149 NJEE;cM134 NJOO
  cM182 VI;cM185 VA;cM151 VU;cM173 VEE;cM085 VE;cM144 VOO;cM077 VO;cM164 NYIN;cM058 NYAN;cM170 NYUN
  cM098 NYEN;cM060 NYON;=1E8C7;bDIGIT ONE;cTWO;cTHREE;cFOUR;cFIVE;cSIX;cSEVEN;cEIGHT;cNINE
  bCOMBINING NUMBER TEENS;dTENS;dHUNDREDS;dTHOUSANDS;dTEN THOUSANDS;dHUNDRED THOUSANDS;dMILLIONS
  =1E900;ADLAM CAPITAL LETTER ALIF;cDAALI;cLAAM;cMIIM;cBA;cSINNYIIYHE;cPE;cBHE;cRA;cE;cFA;cI;cO
  cDHA;cYHE;cWAW;cNUN;cKAF;cYA;cU;cJIIM;cCHI;cHA;cQAAF;cGA;cNYA;cTU;cNHA;cVA;cKHA;cGBE;cZAL;cKPO
  cSHA;aSMALL LETTER ALIF;cDAALI;cLAAM;cMIIM;cBA;cSINNYIIYHE;cPE;cBHE;cRA;cE;cFA;cI;cO;cDHA;cYHE
  cWAW;cNUN;cKAF;cYA;cU;cJIIM;cCHI;cHA;cQAAF;cGA;cNYA;cTU;cNHA;cVA;cKHA;cGBE;cZAL;cKPO;cSHA
  aALIF LENGTHENER;aVOWEL LENGTHENER;aGEMINATION MARK;aHAMZA;aCONSONANT MODIFIER
  aGEMINATE CONSONANT MODIFIER;aNUKTA;aNASALIZATION MARK;=1E950;aDIGIT ZERO;bONE;bTWO;bTHREE;bFOUR
  bFIVE;bSIX;bSEVEN;bEIGHT;bNINE;=1E95E;aINITIAL EXCLAMATION MARK;bQUESTION MARK;=1EC71
  INDIC SIYAQ NUMBER ONE;cTWO;cTHREE;cFOUR;cFIVE;cSIX;cSEVEN;cEIGHT;cNINE;cTEN;cTWENTY;cTHIRTY
  cFORTY;cFIFTY;cSIXTY;cSEVENTY;cEIGHTY;cNINETY;cONE HUNDRED;cTWO HUNDRED;cTHREE HUNDRED
  cFOUR HUNDRED;cFIVE HUNDRED;cSIX HUNDRED;cSEVEN HUNDRED;cEIGHT HUNDRED;cNINE HUNDRED
  cONE THOUSAND;cTWO THOUSAND;cTHREE THOUSAND;cFOUR THOUSAND;cFIVE THOUSAND;cSIX THOUSAND
  cSEVEN THOUSAND;cEIGHT THOUSAND;cNINE THOUSAND;cTEN THOUSAND;cTWENTY THOUSAND;cTHIRTY THOUSAND
  cFORTY THOUSAND;cFIFTY THOUSAND;cSIXTY THOUSAND;cSEVENTY THOUSAND;cEIGHTY THOUSAND
  cNINETY THOUSAND;cLAKH;cLAKHAN;bLAKH MARK;bNUMBER KAROR;cKARORAN;cPREFIXED ONE;dTWO;dTHREE;dFOUR
  dFIVE;dSIX;dSEVEN;dEIGHT;dNINE;bPLACEHOLDER;bFRACTION ONE QUARTER;dHALF;cTHREE QUARTERS
  bRUPEE MARK;bNUMBER ALTERNATE ONE;dTWO;dTEN THOUSAND;bALTERNATE LAKH MARK;=1ED01
  OTTOMAN SIYAQ NUMBER ONE;cTWO;cTHREE;cFOUR;cFIVE;cSIX;cSEVEN;cEIGHT;cNINE;cTEN;cTWENTY;cTHIRTY
  cFORTY;cFIFTY;cSIXTY;cSEVENTY;cEIGHTY;cNINETY;cONE HUNDRED;cTWO HUNDRED;cTHREE HUNDRED
  cFOUR HUNDRED;cFIVE HUNDRED;cSIX HUNDRED;cSEVEN HUNDRED;cEIGHT HUNDRED;cNINE HUNDRED
  cONE THOUSAND;cTWO THOUSAND;cTHREE THOUSAND;cFOUR THOUSAND;cFIVE THOUSAND;cSIX THOUSAND
  cSEVEN THOUSAND;cEIGHT THOUSAND;cNINE THOUSAND;cTEN THOUSAND;cTWENTY THOUSAND;cTHIRTY THOUSAND
  cFORTY THOUSAND;cFIFTY THOUSAND;cSIXTY THOUSAND;cSEVENTY THOUSAND;cEIGHTY THOUSAND
  cNINETY THOUSAND;bMARRATAN;bALTERNATE NUMBER TWO;dTHREE;dFOUR;dFIVE;dSIX;dSEVEN;dEIGHT;dNINE;dTEN
  dFOUR HUNDRED;dSIX HUNDRED;dTWO THOUSAND;dTEN THOUSAND;bFRACTION ONE HALF;dSIXTH;=1EE00
  ARABIC MATHEMATICAL ALEF;bBEH;bJEEM;bDAL;=1EE05;bWAW;bZAIN;bHAH;bTAH;bYEH;bKAF;bLAM;bMEEM;bNOON
  bSEEN;bAIN;bFEH;bSAD;bQAF;bREH;bSHEEN;bTEH;bTHEH;bKHAH;bTHAL;bDAD;bZAH;bGHAIN;bDOTLESS BEH;cNOON
  cFEH;cQAF;=1EE21;bINITIAL BEH;cJEEM;=1EE24;cHEH;=1EE27;cHAH;=1EE29;cYEH;cKAF;cLAM;cMEEM;cNOON
  cSEEN;cAIN;cFEH;cSAD;cQAF;=1EE34;cSHEEN;cTEH;cTHEH;cKHAH;=1EE39;cDAD;=1EE3B;cGHAIN;=1EE42
  bTAILED JEEM;=1EE47;cHAH;=1EE49;cYEH;=1EE4B;cLAM;=1EE4D;cNOON;cSEEN;cAIN;=1EE51;cSAD;cQAF;=1EE54
  cSHEEN;=1EE57;cKHAH;=1EE59;cDAD;=1EE5B;cGHAIN;=1EE5D;cDOTLESS NOON;=1EE5F;dQAF;=1EE61
  bSTRETCHED BEH;cJEEM;=1EE64;cHEH;=1EE67;cHAH;cTAH;cYEH;cKAF;=1EE6C;cMEEM;cNOON;cSEEN;cAIN;cFEH
  cSAD;cQAF;=1EE74;cSHEEN;cTEH;cTHEH;cKHAH;=1EE79;cDAD;cZAH;cGHAIN;cDOTLESS BEH;=1EE7E;dFEH;=1EE80
  bLOOPED ALEF;cBEH;cJEEM;cDAL;cHEH;cWAW;cZAIN;cHAH;cTAH;cYEH;=1EE8B;cLAM;cMEEM;cNOON;cSEEN;cAIN
  cFEH;cSAD;cQAF;cREH;cSHEEN;cTEH;cTHEH;cKHAH;cTHAL;cDAD;cZAH;cGHAIN;=1EEA1;bDOUBLE-STRUCK BEH
  cJEEM;cDAL;=1EEA5;cWAW;cZAIN;cHAH;cTAH;cYEH;=1EEAB;cLAM;cMEEM;cNOON;cSEEN;cAIN;cFEH;cSAD;cQAF
  cREH;cSHEEN;cTEH;cTHEH;cKHAH;cTHAL;cDAD;cZAH;cGHAIN;=1EEF0;bOPERATOR MEEM WITH HAH WITH TATWEEL
  cHAH WITH DAL;=1F000;MAHJONG TILE EAST WIND;bSOUTH WIND;bWEST WIND;bNORTH WIND;bRED DRAGON
  bGREEN DRAGON;bWHITE DRAGON;bONE OF CHARACTERS;bTWO OF CHARACTERS;bTHREE OF CHARACTERS
  bFOUR OF CHARACTERS;bFIVE OF CHARACTERS;bSIX OF CHARACTERS;bSEVEN OF CHARACTERS
  bEIGHT OF CHARACTERS;bNINE OF CHARACTERS;bONE OF BAMBOOS;bTWO OF BAMBOOS;bTHREE OF BAMBOOS
  bFOUR OF BAMBOOS;bFIVE OF BAMBOOS;bSIX OF BAMBOOS;bSEVEN OF BAMBOOS;bEIGHT OF BAMBOOS
  bNINE OF BAMBOOS;bONE OF CIRCLES;bTWO OF CIRCLES;bTHREE OF CIRCLES;bFOUR OF CIRCLES
  bFIVE OF CIRCLES;bSIX OF CIRCLES;bSEVEN OF CIRCLES;bEIGHT OF CIRCLES;bNINE OF CIRCLES;bPLUM
  bORCHID;bBAMBOO;bCHRYSANTHEMUM;bSPRING;bSUMMER;bAUTUMN;bWINTER;bJOKER;bBACK;=1F030
  DOMINO TILE HORIZONTAL BACK;bHORIZONTAL-00-00;bHORIZONTAL-00-01;bHORIZONTAL-00-02
  bHORIZONTAL-00-03;bHORIZONTAL-00-04;bHORIZONTAL-00-05;bHORIZONTAL-00-06;bHORIZONTAL-01-00
  bHORIZONTAL-01-01;bHORIZONTAL-01-02;bHORIZONTAL-01-03;bHORIZONTAL-01-04;bHORIZONTAL-01-05
  bHORIZONTAL-01-06;bHORIZONTAL-02-00;bHORIZONTAL-02-01;bHORIZONTAL-02-02;bHORIZONTAL-02-03
  bHORIZONTAL-02-04;bHORIZONTAL-02-05;bHORIZONTAL-02-06;bHORIZONTAL-03-00;bHORIZONTAL-03-01
  bHORIZONTAL-03-02;bHORIZONTAL-03-03;bHORIZONTAL-03-04;bHORIZONTAL-03-05;bHORIZONTAL-03-06
  bHORIZONTAL-04-00;bHORIZONTAL-04-01;bHORIZONTAL-04-02;bHORIZONTAL-04-03;bHORIZONTAL-04-04
  bHORIZONTAL-04-05;bHORIZONTAL-04-06;bHORIZONTAL-05-00;bHORIZONTAL-05-01;bHORIZONTAL-05-02
  bHORIZONTAL-05-03;bHORIZONTAL-05-04;bHORIZONTAL-05-05;bHORIZONTAL-05-06;bHORIZONTAL-06-00
  bHORIZONTAL-06-01;bHORIZONTAL-06-02;bHORIZONTAL-06-03;bHORIZONTAL-06-04;bHORIZONTAL-06-05
  bHORIZONTAL-06-06;bVERTICAL BACK;bVERTICAL-00-00;bVERTICAL-00-01;bVERTICAL-00-02;bVERTICAL-00-03
  bVERTICAL-00-04;bVERTICAL-00-05;bVERTICAL-00-06;bVERTICAL-01-00;bVERTICAL-01-01;bVERTICAL-01-02
  bVERTICAL-01-03;bVERTICAL-01-04;bVERTICAL-01-05;bVERTICAL-01-06;bVERTICAL-02-00;bVERTICAL-02-01
  bVERTICAL-02-02;bVERTICAL-02-03;bVERTICAL-02-04;bVERTICAL-02-05;bVERTICAL-02-06;bVERTICAL-03-00
  bVERTICAL-03-01;bVERTICAL-03-02;bVERTICAL-03-03;bVERTICAL-03-04;bVERTICAL-03-05;bVERTICAL-03-06
  bVERTICAL-04-00;bVERTICAL-04-01;bVERTICAL-04-02;bVERTICAL-04-03;bVERTICAL-04-04;bVERTICAL-04-05
  bVERTICAL-04-06;bVERTICAL-05-00;bVERTICAL-05-01;bVERTICAL-05-02;bVERTICAL-05-03;bVERTICAL-05-04
  bVERTICAL-05-05;bVERTICAL-05-06;bVERTICAL-06-00;bVERTICAL-06-01;bVERTICAL-06-02;bVERTICAL-06-03
  bVERTICAL-06-04;bVERTICAL-06-05;bVERTICAL-06-06;=1F0A0;PLAYING CARD BACK;bACE OF SPADES
  bTWO OF SPADES;bTHREE OF SPADES;bFOUR OF SPADES;bFIVE OF SPADES;bSIX OF SPADES;bSEVEN OF SPADES
  bEIGHT OF SPADES;bNINE OF SPADES;bTEN OF SPADES;bJACK OF SPADES;bKNIGHT OF SPADES
  bQUEEN OF SPADES;bKING OF SPADES;=1F0B1;bACE OF HEARTS;bTWO OF HEARTS;bTHREE OF HEARTS
  bFOUR OF HEARTS;bFIVE OF HEARTS;bSIX OF HEARTS;bSEVEN OF HEARTS;bEIGHT OF HEARTS;bNINE OF HEARTS
  bTEN OF HEARTS;bJACK OF HEARTS;bKNIGHT OF HEARTS;bQUEEN OF HEARTS;bKING OF HEARTS;bRED JOKER
  =1F0C1;bACE OF DIAMONDS;bTWO OF DIAMONDS;bTHREE OF DIAMONDS;bFOUR OF DIAMONDS;bFIVE OF DIAMONDS
  bSIX OF DIAMONDS;bSEVEN OF DIAMONDS;bEIGHT OF DIAMONDS;bNINE OF DIAMONDS;bTEN OF DIAMONDS
  bJACK OF DIAMONDS;bKNIGHT OF DIAMONDS;bQUEEN OF DIAMONDS;bKING OF DIAMONDS;bBLACK JOKER;=1F0D1
  bACE OF CLUBS;bTWO OF CLUBS;bTHREE OF CLUBS;bFOUR OF CLUBS;bFIVE OF CLUBS;bSIX OF CLUBS
  bSEVEN OF CLUBS;bEIGHT OF CLUBS;bNINE OF CLUBS;bTEN OF CLUBS;bJACK OF CLUBS;bKNIGHT OF CLUBS
  bQUEEN OF CLUBS;bKING OF CLUBS;bWHITE JOKER;bFOOL;bTRUMP-1;bTRUMP-2;bTRUMP-3;bTRUMP-4;bTRUMP-5
  bTRUMP-6;bTRUMP-7;bTRUMP-8;bTRUMP-9;bTRUMP-10;bTRUMP-11;bTRUMP-12;bTRUMP-13;bTRUMP-14;bTRUMP-15
  bTRUMP-16;bTRUMP-17;bTRUMP-18;bTRUMP-19;bTRUMP-20;bTRUMP-21;=1F100;DIGIT ZERO FULL STOP;bCOMMA
  aONE COMMA;aTWO COMMA;aTHREE COMMA;aFOUR COMMA;aFIVE COMMA;aSIX COMMA;aSEVEN COMMA;aEIGHT COMMA
  aNINE COMMA;DINGBAT CIRCLED SANS-SERIF DIGIT ZERO;aNEGATIVE CIRCLED SANS-SERIF DIGIT ZERO
  CIRCLED ZERO WITH SLASH;aANTICLOCKWISE ARROW;aDOLLAR SIGN WITH OVERLAID BACKSLASH
  PARENTHESIZED LATIN CAPITAL LETTER A;dB;dC;dD;dE;dF;dG;dH;dI;dJ;dK;dL;dM;dN;dO;dP;dQ;dR;dS;dT;dU
  dV;dW;dX;dY;dZ;TORTOISE SHELL BRACKETED LATIN CAPITAL LETTER S
  CIRCLED ITALIC LATIN CAPITAL LETTER C;eR;aCD;aWZ;COPYLEFT SYMBOL;SQUARED LATIN CAPITAL LETTER A
  dB;dC;dD;dE;dF;dG;dH;dI;dJ;dK;dL;dM;dN;dO;dP;dQ;dR;dS;dT;dU;dV;dW;dX;dY;dZ;aHV;aMV;aSD;aSS;aPPV
  aWC;NEGATIVE CIRCLED LATIN CAPITAL LETTER A;eB;eC;eD;eE;eF;eG;eH;eI;eJ;eK;eL;eM;eN;eO;eP;eQ;eR;eS
  eT;eU;eV;eW;eX;eY;eZ;RAISED MC SIGN;aMD SIGN;aMR SIGN;CIRCLED CC;aC WITH OVERLAID BACKSLASH
  aHUMAN FIGURE;NEGATIVE SQUARED LATIN CAPITAL LETTER A;eB;eC;eD;eE;eF;eG;eH;eI;eJ;eK;eL;eM;eN;eO
  eP;eQ;eR;eS;eT;eU;eV;eW;eX;eY;eZ;CROSSED NEGATIVE SQUARED LATIN CAPITAL LETTER P
  NEGATIVE SQUARED IC;bPA;bSA;bAB;bWC;SQUARE DJ;SQUARED CL;aCOOL;aFREE;aID;aNEW;aNG;aOK;aSOS
  aUP WITH EXCLAMATION MARK;aVS;aTHREE D;aSECOND SCREEN;aTWO K;aFOUR K;aEIGHT K;aFIVE POINT ONE
  aSEVEN POINT ONE;aTWENTY-TWO POINT TWO;aSIXTY P;aONE HUNDRED TWENTY P;aLATIN SMALL LETTER D;aHC
  aHDR;aHI-RES;aLOSSLESS;aSHV;aUHD;aVOD;MASK WORK SYMBOL;=1F1E6;REGIONAL INDICATOR SYMBOL LETTER A
  dB;dC;dD;dE;dF;dG;dH;dI;dJ;dK;dL;dM;dN;dO;dP;dQ;dR;dS;dT;dU;dV;dW;dX;dY;dZ;SQUARE HIRAGANA HOKA
  SQUARED KATAKANA KOKO;bSA;=1F210;aCJK UNIFIED IDEOGRAPH-624B;cIDEOGRAPH-5B57;cIDEOGRAPH-53CC
  aKATAKANA DE;aCJK UNIFIED IDEOGRAPH-4E8C;cIDEOGRAPH-591A;cIDEOGRAPH-89E3;cIDEOGRAPH-5929
  cIDEOGRAPH-4EA4;cIDEOGRAPH-6620;cIDEOGRAPH-7121;cIDEOGRAPH-6599;cIDEOGRAPH-524D;cIDEOGRAPH-5F8C
  cIDEOGRAPH-518D;cIDEOGRAPH-65B0;cIDEOGRAPH-521D;cIDEOGRAPH-7D42;cIDEOGRAPH-751F;cIDEOGRAPH-8CA9
  cIDEOGRAPH-58F0;cIDEOGRAPH-5439;cIDEOGRAPH-6F14;cIDEOGRAPH-6295;cIDEOGRAPH-6355;cIDEOGRAPH-4E00
  cIDEOGRAPH-4E09;cIDEOGRAPH-904A;cIDEOGRAPH-5DE6;cIDEOGRAPH-4E2D;cIDEOGRAPH-53F3;cIDEOGRAPH-6307
  cIDEOGRAPH-8D70;cIDEOGRAPH-6253;cIDEOGRAPH-7981;cIDEOGRAPH-7A7A;cIDEOGRAPH-5408;cIDEOGRAPH-6E80
  cIDEOGRAPH-6709;cIDEOGRAPH-6708;cIDEOGRAPH-7533;cIDEOGRAPH-5272;cIDEOGRAPH-55B6;cIDEOGRAPH-914D
  =1F240;TORTOISE SHELL BRACKETED CJK UNIFIED IDEOGRAPH-672C;eIDEOGRAPH-4E09;eIDEOGRAPH-4E8C
  eIDEOGRAPH-5B89;eIDEOGRAPH-70B9;eIDEOGRAPH-6253;eIDEOGRAPH-76D7;eIDEOGRAPH-52DD;eIDEOGRAPH-6557
  =1F250;CIRCLED IDEOGRAPH ADVANTAGE;bACCEPT;=1F260;ROUNDED SYMBOL FOR FU;cLU;cSHOU;cXI;cSHUANGXI
  cCAI;=1F300;CYCLONE;FOGGY;CLOSED UMBRELLA;NIGHT WITH STARS;SUNRISE OVER MOUNTAINS;SUNRISE
  CITYSCAPE AT DUSK;SUNSET OVER BUILDINGS;RAINBOW;BRIDGE AT NIGHT;WATER WAVE;VOLCANO;MILKY WAY
  EARTH GLOBE EUROPE-AFRICA;bAMERICAS;bASIA-AUSTRALIA;GLOBE WITH MERIDIANS;NEW MOON SYMBOL
  WAXING CRESCENT MOON SYMBOL;FIRST QUARTER MOON SYMBOL;WAXING GIBBOUS MOON SYMBOL;FULL MOON SYMBOL
  WANING GIBBOUS MOON SYMBOL;LAST QUARTER MOON SYMBOL;WANING CRESCENT MOON SYMBOL;CRESCENT MOON
  NEW MOON WITH FACE;FIRST QUARTER MOON WITH FACE;LAST QUARTER MOON WITH FACE;FULL MOON WITH FACE
  SUN WITH FACE;GLOWING STAR;SHOOTING STAR;THERMOMETER;BLACK DROPLET;WHITE SUN;bWITH SMALL CLOUD
  bBEHIND CLOUD;dWITH RAIN;CLOUD WITH RAIN;bSNOW;bLIGHTNING;bTORNADO;FOG;WIND BLOWING FACE;HOT DOG
  TACO;BURRITO;CHESTNUT;SEEDLING;EVERGREEN TREE;DECIDUOUS TREE;PALM TREE;CACTUS;HOT PEPPER;TULIP
  CHERRY BLOSSOM;ROSE;HIBISCUS;SUNFLOWER;BLOSSOM;EAR OF MAIZE;bRICE;HERB;FOUR LEAF CLOVER
  MAPLE LEAF;FALLEN LEAF;LEAF FLUTTERING IN WIND;MUSHROOM;TOMATO;AUBERGINE;GRAPES;MELON;WATERMELON
  TANGERINE;LEMON;BANANA;PINEAPPLE;RED APPLE;GREEN APPLE;PEAR;PEACH;CHERRIES;STRAWBERRY;HAMBURGER
  SLICE OF PIZZA;MEAT ON BONE;POULTRY LEG;RICE CRACKER;aBALL;COOKED RICE;CURRY AND RICE
  STEAMING BOWL;SPAGHETTI;BREAD;FRENCH FRIES;ROASTED SWEET POTATO;DANGO;ODEN;SUSHI;FRIED SHRIMP
  FISH CAKE WITH SWIRL DESIGN;SOFT ICE CREAM;SHAVED ICE;ICE CREAM;DOUGHNUT;COOKIE;CHOCOLATE BAR
  CANDY;LOLLIPOP;CUSTARD;HONEY POT;SHORTCAKE;BENTO BOX;POT OF FOOD;COOKING;FORK AND KNIFE
  TEACUP WITHOUT HANDLE;SAKE BOTTLE AND CUP;WINE GLASS;COCKTAIL GLASS;TROPICAL DRINK;BEER MUG
  CLINKING BEER MUGS;BABY BOTTLE;FORK AND KNIFE WITH PLATE;BOTTLE WITH POPPING CORK;POPCORN;RIBBON
  WRAPPED PRESENT;BIRTHDAY CAKE;JACK-O-LANTERN;CHRISTMAS TREE;FATHER CHRISTMAS;FIREWORKS
  FIREWORK SPARKLER;BALLOON;PARTY POPPER;CONFETTI BALL;TANABATA TREE;CROSSED FLAGS;PINE DECORATION
  JAPANESE DOLLS;CARP STREAMER;WIND CHIME;MOON VIEWING CEREMONY;SCHOOL SATCHEL;GRADUATION CAP
  HEART WITH TIP ON THE LEFT;BOUQUET OF FLOWERS;MILITARY MEDAL;REMINDER RIBBON
  MUSICAL KEYBOARD WITH JACKS;STUDIO MICROPHONE;LEVEL SLIDER;CONTROL KNOBS
  BEAMED ASCENDING MUSICAL NOTES;aDESCENDING MUSICAL NOTES;FILM FRAMES;ADMISSION TICKETS
  CAROUSEL HORSE;FERRIS WHEEL;ROLLER COASTER;FISHING POLE AND FISH;MICROPHONE;MOVIE CAMERA;CINEMA
  HEADPHONE;ARTIST PALETTE;TOP HAT;CIRCUS TENT;TICKET;CLAPPER BOARD;PERFORMING ARTS;VIDEO GAME
  DIRECT HIT;SLOT MACHINE;BILLIARDS;GAME DIE;BOWLING;FLOWER PLAYING CARDS;MUSICAL NOTE
  MULTIPLE MUSICAL NOTES;SAXOPHONE;GUITAR;MUSICAL KEYBOARD;TRUMPET;VIOLIN;MUSICAL SCORE
  RUNNING SHIRT WITH SASH;TENNIS RACQUET AND BALL;SKI AND SKI BOOT;BASKETBALL AND HOOP
  CHEQUERED FLAG;SNOWBOARDER;RUNNER;SURFER;SPORTS MEDAL;TROPHY;HORSE RACING;AMERICAN FOOTBALL
  RUGBY FOOTBALL;SWIMMER;WEIGHT LIFTER;GOLFER;RACING MOTORCYCLE;aCAR;CRICKET BAT AND BALL
  VOLLEYBALL;FIELD HOCKEY STICK AND BALL;ICE HOCKEY STICK AND PUCK;TABLE TENNIS PADDLE AND BALL
  SNOW CAPPED MOUNTAIN;CAMPING;BEACH WITH UMBRELLA;BUILDING CONSTRUCTION;HOUSE BUILDINGS;CITYSCAPE
  DERELICT HOUSE BUILDING;CLASSICAL BUILDING;DESERT;aISLAND;NATIONAL PARK;STADIUM;HOUSE BUILDING
  aWITH GARDEN;OFFICE BUILDING;JAPANESE POST OFFICE;EUROPEAN POST OFFICE;HOSPITAL;BANK
  AUTOMATED TELLER MACHINE;HOTEL;LOVE HOTEL;CONVENIENCE STORE;SCHOOL;DEPARTMENT STORE;FACTORY
  IZAKAYA LANTERN;JAPANESE CASTLE;EUROPEAN CASTLE;WHITE PENNANT;BLACK PENNANT;WAVING WHITE FLAG
  aBLACK FLAG;ROSETTE;BLACK ROSETTE;LABEL;BADMINTON RACQUET AND SHUTTLECOCK;BOW AND ARROW;AMPHORA
  EMOJI MODIFIER FITZPATRICK TYPE-1-2;cTYPE-3;cTYPE-4;cTYPE-5;cTYPE-6;RAT;MOUSE;OX;WATER BUFFALO
  COW;TIGER;LEOPARD;RABBIT;CAT;DRAGON;CROCODILE;WHALE;SNAIL;SNAKE;HORSE;RAM;GOAT;SHEEP;MONKEY
  ROOSTER;CHICKEN;DOG;PIG;BOAR;ELEPHANT;OCTOPUS;SPIRAL SHELL;BUG;ANT;HONEYBEE;LADY BEETLE;FISH
  TROPICAL FISH;BLOWFISH;TURTLE;HATCHING CHICK;BABY CHICK;FRONT-FACING BABY CHICK;BIRD;PENGUIN
  KOALA;POODLE;DROMEDARY CAMEL;BACTRIAN CAMEL;DOLPHIN;MOUSE FACE;COW FACE;TIGER FACE;RABBIT FACE
  CAT FACE;DRAGON FACE;SPOUTING WHALE;HORSE FACE;MONKEY FACE;DOG FACE;PIG FACE;FROG FACE
  HAMSTER FACE;WOLF FACE;BEAR FACE;PANDA FACE;PIG NOSE;PAW PRINTS;CHIPMUNK;EYES;EYE;EAR;NOSE;MOUTH
  TONGUE;WHITE UP POINTING BACKHAND INDEX;aDOWN POINTING BACKHAND INDEX
  aLEFT POINTING BACKHAND INDEX;aRIGHT POINTING BACKHAND INDEX;FISTED HAND SIGN;WAVING HAND SIGN
  OK HAND SIGN;THUMBS UP SIGN;aDOWN SIGN;CLAPPING HANDS SIGN;OPEN HANDS SIGN;CROWN;WOMANS HAT
  EYEGLASSES;NECKTIE;T-SHIRT;JEANS;DRESS;KIMONO;BIKINI;WOMANS CLOTHES;PURSE;HANDBAG;POUCH;MANS SHOE
  ATHLETIC SHOE;HIGH-HEELED SHOE;WOMANS SANDAL;aBOOTS;FOOTPRINTS;BUST IN SILHOUETTE
  BUSTS IN SILHOUETTE;BOY;GIRL;MAN;WOMAN;FAMILY;MAN AND WOMAN HOLDING HANDS;TWO MEN HOLDING HANDS
  aWOMEN HOLDING HANDS;POLICE OFFICER;WOMAN WITH BUNNY EARS;BRIDE WITH VEIL;PERSON WITH BLOND HAIR
  MAN WITH GUA PI MAO;bTURBAN;OLDER MAN;aWOMAN;BABY;CONSTRUCTION WORKER;PRINCESS;JAPANESE OGRE
  aGOBLIN;GHOST;BABY ANGEL;EXTRATERRESTRIAL ALIEN;ALIEN MONSTER;IMP;SKULL;INFORMATION DESK PERSON
  GUARDSMAN;DANCER;LIPSTICK;NAIL POLISH;FACE MASSAGE;HAIRCUT;BARBER POLE;SYRINGE;PILL;KISS MARK
  LOVE LETTER;RING;GEM STONE;KISS;BOUQUET;COUPLE WITH HEART;WEDDING;BEATING HEART;BROKEN HEART
  TWO HEARTS;SPARKLING HEART;GROWING HEART;HEART WITH ARROW;BLUE HEART;GREEN HEART;YELLOW HEART
  PURPLE HEART;HEART WITH RIBBON;REVOLVING HEARTS;HEART DECORATION;DIAMOND SHAPE WITH A DOT INSIDE
  ELECTRIC LIGHT BULB;ANGER SYMBOL;BOMB;SLEEPING SYMBOL;COLLISION SYMBOL;SPLASHING SWEAT SYMBOL
  DROPLET;DASH SYMBOL;PILE OF POO;FLEXED BICEPS;DIZZY SYMBOL;SPEECH BALLOON;THOUGHT BALLOON
  WHITE FLOWER;HUNDRED POINTS SYMBOL;MONEY BAG;CURRENCY EXCHANGE;HEAVY DOLLAR SIGN;CREDIT CARD
  BANKNOTE WITH YEN SIGN;bDOLLAR SIGN;bEURO SIGN;bPOUND SIGN;MONEY WITH WINGS
  CHART WITH UPWARDS TREND AND YEN SIGN;SEAT;PERSONAL COMPUTER;BRIEFCASE;MINIDISC;FLOPPY DISK
  OPTICAL DISC;DVD;FILE FOLDER;OPEN FILE FOLDER;PAGE WITH CURL;aFACING UP;CALENDAR
  TEAR-OFF CALENDAR;CARD INDEX;CHART WITH UPWARDS TREND;bDOWNWARDS TREND;BAR CHART;CLIPBOARD
  PUSHPIN;ROUND PUSHPIN;PAPERCLIP;STRAIGHT RULER;TRIANGULAR RULER;BOOKMARK TABS;LEDGER;NOTEBOOK
  aWITH DECORATIVE COVER;CLOSED BOOK;OPEN BOOK;GREEN BOOK;BLUE BOOK;ORANGE BOOK;BOOKS;NAME BADGE
  SCROLL;MEMO;TELEPHONE RECEIVER;PAGER;FAX MACHINE;SATELLITE ANTENNA;PUBLIC ADDRESS LOUDSPEAKER
  CHEERING MEGAPHONE;OUTBOX TRAY;INBOX TRAY;PACKAGE;E-MAIL SYMBOL;INCOMING ENVELOPE
  ENVELOPE WITH DOWNWARDS ARROW ABOVE;CLOSED MAILBOX WITH LOWERED FLAG;cRAISED FLAG
  OPEN MAILBOX WITH RAISED FLAG;cLOWERED FLAG;POSTBOX;POSTAL HORN;NEWSPAPER;MOBILE PHONE
  bWITH RIGHTWARDS ARROW AT LEFT;VIBRATION MODE;MOBILE PHONE OFF;NO MOBILE PHONES;ANTENNA WITH BARS
  CAMERA;aWITH FLASH;VIDEO CAMERA;TELEVISION;RADIO;VIDEOCASSETTE;FILM PROJECTOR;PORTABLE STEREO
  PRAYER BEADS;TWISTED RIGHTWARDS ARROWS;CLOCKWISE RIGHTWARDS AND LEFTWARDS OPEN CIRCLE ARROWS
  gWITH CIRCLED ONE OVERLAY;aDOWNWARDS AND UPWARDS OPEN CIRCLE ARROWS
  ANTICLOCKWISE DOWNWARDS AND UPWARDS OPEN CIRCLE ARROWS;LOW BRIGHTNESS SYMBOL
  HIGH BRIGHTNESS SYMBOL;SPEAKER WITH CANCELLATION STROKE;SPEAKER;aWITH ONE SOUND WAVE
  bTHREE SOUND WAVES;BATTERY;ELECTRIC PLUG;LEFT-POINTING MAGNIFYING GLASS
  RIGHT-POINTING MAGNIFYING GLASS;LOCK WITH INK PEN;CLOSED LOCK WITH KEY;KEY;LOCK;OPEN LOCK;BELL
  aWITH CANCELLATION STROKE;BOOKMARK;LINK SYMBOL;RADIO BUTTON;BACK WITH LEFTWARDS ARROW ABOVE
  END WITH LEFTWARDS ARROW ABOVE;ON WITH EXCLAMATION MARK WITH LEFT RIGHT ARROW ABOVE
  SOON WITH RIGHTWARDS ARROW ABOVE;TOP WITH UPWARDS ARROW ABOVE;NO ONE UNDER EIGHTEEN SYMBOL
  KEYCAP TEN;INPUT SYMBOL FOR LATIN CAPITAL LETTERS;dSMALL LETTERS;cNUMBERS;cSYMBOLS;cLATIN LETTERS
  FIRE;ELECTRIC TORCH;WRENCH;HAMMER;NUT AND BOLT;HOCHO;PISTOL;MICROSCOPE;TELESCOPE;CRYSTAL BALL
  SIX POINTED STAR WITH MIDDLE DOT;JAPANESE SYMBOL FOR BEGINNER;TRIDENT EMBLEM;BLACK SQUARE BUTTON
  WHITE SQUARE BUTTON;LARGE RED CIRCLE;aBLUE CIRCLE;aORANGE DIAMOND;aBLUE DIAMOND
  SMALL ORANGE DIAMOND;aBLUE DIAMOND;UP-POINTING RED TRIANGLE;DOWN-POINTING RED TRIANGLE
  UP-POINTING SMALL RED TRIANGLE;DOWN-POINTING SMALL RED TRIANGLE;LOWER RIGHT SHADOWED WHITE CIRCLE
  UPPER RIGHT SHADOWED WHITE CIRCLE;CIRCLED CROSS POMMEE;CROSS POMMEE WITH HALF-CIRCLE BELOW
  aPOMMEE;NOTCHED LEFT SEMICIRCLE WITH THREE DOTS;aRIGHT SEMICIRCLE WITH THREE DOTS
  SYMBOL FOR MARKS CHAPTER;WHITE LATIN CROSS;HEAVY LATIN CROSS;CELTIC CROSS;OM SYMBOL;DOVE OF PEACE
  KAABA;MOSQUE;SYNAGOGUE;MENORAH WITH NINE BRANCHES;BOWL OF HYGIEIA;CLOCK FACE ONE OCLOCK
  bTWO OCLOCK;bTHREE OCLOCK;bFOUR OCLOCK;bFIVE OCLOCK;bSIX OCLOCK;bSEVEN OCLOCK;bEIGHT OCLOCK
  bNINE OCLOCK;bTEN OCLOCK;bELEVEN OCLOCK;bTWELVE OCLOCK;bONE-THIRTY;bTWO-THIRTY;bTHREE-THIRTY
  bFOUR-THIRTY;bFIVE-THIRTY;bSIX-THIRTY;bSEVEN-THIRTY;bEIGHT-THIRTY;bNINE-THIRTY;bTEN-THIRTY
  bELEVEN-THIRTY;bTWELVE-THIRTY;RIGHT SPEAKER;bWITH ONE SOUND WAVE;cTHREE SOUND WAVES;BULLHORN
  aWITH SOUND WAVES;RINGING BELL;BOOK;CANDLE;MANTELPIECE CLOCK;BLACK SKULL AND CROSSBONES;NO PIRACY
  HOLE;MAN IN BUSINESS SUIT LEVITATING;SLEUTH OR SPY;DARK SUNGLASSES;SPIDER;aWEB;JOYSTICK
  MAN DANCING;LEFT HAND TELEPHONE RECEIVER;TELEPHONE RECEIVER WITH PAGE
  RIGHT HAND TELEPHONE RECEIVER;WHITE TOUCHTONE TELEPHONE;BLACK TOUCHTONE TELEPHONE
  TELEPHONE ON TOP OF MODEM;CLAMSHELL MOBILE PHONE;BACK OF ENVELOPE;STAMPED ENVELOPE
  ENVELOPE WITH LIGHTNING;FLYING ENVELOPE;PEN OVER STAMPED ENVELOPE;LINKED PAPERCLIPS;BLACK PUSHPIN
  LOWER LEFT PENCIL;bBALLPOINT PEN;bFOUNTAIN PEN;bPAINTBRUSH;bCRAYON;LEFT WRITING HAND
  TURNED OK HAND SIGN;RAISED HAND WITH FINGERS SPLAYED;REVERSED RAISED HAND WITH FINGERS SPLAYED
  aTHUMBS UP SIGN;bDOWN SIGN;aVICTORY HAND;aHAND WITH MIDDLE FINGER EXTENDED
  RAISED HAND WITH PART BETWEEN MIDDLE AND RING FINGERS;WHITE DOWN POINTING LEFT HAND INDEX
  SIDEWAYS WHITE LEFT POINTING INDEX;bRIGHT POINTING INDEX;aBLACK LEFT POINTING INDEX
  bRIGHT POINTING INDEX;BLACK LEFT POINTING BACKHAND INDEX;aRIGHT POINTING BACKHAND INDEX
  SIDEWAYS WHITE UP POINTING INDEX;bDOWN POINTING INDEX;aBLACK UP POINTING INDEX
  bDOWN POINTING INDEX;BLACK UP POINTING BACKHAND INDEX;aDOWN POINTING BACKHAND INDEX;aHEART
  DESKTOP COMPUTER;KEYBOARD AND MOUSE;THREE NETWORKED COMPUTERS;PRINTER;POCKET CALCULATOR
  BLACK HARD SHELL FLOPPY DISK;WHITE HARD SHELL FLOPPY DISK;SOFT SHELL FLOPPY DISK;TAPE CARTRIDGE
  WIRED KEYBOARD;ONE BUTTON MOUSE;TWO BUTTON MOUSE;THREE BUTTON MOUSE;TRACKBALL
  OLD PERSONAL COMPUTER;HARD DISK;SCREEN;PRINTER ICON;FAX ICON;OPTICAL DISC ICON;DOCUMENT WITH TEXT
  cAND PICTURE;bPICTURE;FRAME WITH PICTURE;bTILES;bAN X;BLACK FOLDER;FOLDER;OPEN FOLDER
  CARD INDEX DIVIDERS;aFILE BOX;FILE CABINET;EMPTY NOTE;bPAGE;bPAD;NOTE;aPAGE;aPAD;EMPTY DOCUMENT
  aPAGE;aPAGES;DOCUMENT;PAGE;PAGES;WASTEBASKET;SPIRAL NOTE PAD;aCALENDAR PAD;DESKTOP WINDOW
  MINIMIZE;MAXIMIZE;OVERLAP;CLOCKWISE RIGHT AND LEFT SEMICIRCLE ARROWS;CANCELLATION X
  INCREASE FONT SIZE SYMBOL;DECREASE FONT SIZE SYMBOL;COMPRESSION;OLD KEY;ROLLED-UP NEWSPAPER
  PAGE WITH CIRCLED TEXT;STOCK CHART;DAGGER KNIFE;LIPS;SPEAKING HEAD IN SILHOUETTE;THREE RAYS ABOVE
  bBELOW;bLEFT;bRIGHT;LEFT SPEECH BUBBLE;RIGHT SPEECH BUBBLE;TWO SPEECH BUBBLES
  THREE SPEECH BUBBLES;LEFT THOUGHT BUBBLE;RIGHT THOUGHT BUBBLE;LEFT ANGER BUBBLE
  RIGHT ANGER BUBBLE;MOOD BUBBLE;LIGHTNING MOOD BUBBLE;aMOOD;BALLOT BOX WITH BALLOT;aSCRIPT X
  aBOX WITH SCRIPT X;aBOLD SCRIPT X;aBOX WITH BOLD SCRIPT X;LIGHT CHECK MARK
  BALLOT BOX WITH BOLD CHECK;WORLD MAP;MOUNT FUJI;TOKYO TOWER;STATUE OF LIBERTY;SILHOUETTE OF JAPAN
  MOYAI;GRINNING FACE;bWITH SMILING EYES;FACE WITH TEARS OF JOY;SMILING FACE WITH OPEN MOUTH
  eAND SMILING EYES;fCOLD SWEAT;fTIGHTLY-CLOSED EYES;cHALO;cHORNS;WINKING FACE
  SMILING FACE WITH SMILING EYES;FACE SAVOURING DELICIOUS FOOD;RELIEVED FACE
  SMILING FACE WITH HEART-SHAPED EYES;cSUNGLASSES;SMIRKING FACE;NEUTRAL FACE;EXPRESSIONLESS FACE
  UNAMUSED FACE;FACE WITH COLD SWEAT;PENSIVE FACE;CONFUSED FACE;CONFOUNDED FACE;KISSING FACE
  FACE THROWING A KISS;KISSING FACE WITH SMILING EYES;cCLOSED EYES;FACE WITH STUCK-OUT TONGUE
  dAND WINKING EYE;eTIGHTLY-CLOSED EYES;DISAPPOINTED FACE;WORRIED FACE;ANGRY FACE;POUTING FACE
  CRYING FACE;PERSEVERING FACE;FACE WITH LOOK OF TRIUMPH;DISAPPOINTED BUT RELIEVED FACE
  FROWNING FACE WITH OPEN MOUTH;ANGUISHED FACE;FEARFUL FACE;WEARY FACE;SLEEPY FACE;TIRED FACE
  GRIMACING FACE;LOUDLY CRYING FACE;FACE WITH OPEN MOUTH;HUSHED FACE
  FACE WITH OPEN MOUTH AND COLD SWEAT;aSCREAMING IN FEAR;ASTONISHED FACE;FLUSHED FACE;SLEEPING FACE
  DIZZY FACE;FACE WITHOUT MOUTH;aWITH MEDICAL MASK;GRINNING CAT FACE WITH SMILING EYES
  CAT FACE WITH TEARS OF JOY;SMILING CAT FACE WITH OPEN MOUTH;dHEART-SHAPED EYES
  CAT FACE WITH WRY SMILE;KISSING CAT FACE WITH CLOSED EYES;POUTING CAT FACE;CRYING CAT FACE
  WEARY CAT FACE;SLIGHTLY FROWNING FACE;aSMILING FACE;UPSIDE-DOWN FACE;FACE WITH ROLLING EYES
  bNO GOOD GESTURE;bOK GESTURE;PERSON BOWING DEEPLY;SEE-NO-EVIL MONKEY;HEAR-NO-EVIL MONKEY
  SPEAK-NO-EVIL MONKEY;HAPPY PERSON RAISING ONE HAND;PERSON RAISING BOTH HANDS IN CELEBRATION
  aFROWNING;aWITH POUTING FACE;bFOLDED HANDS;NORTH WEST POINTING LEAF;SOUTH WEST POINTING LEAF
  NORTH EAST POINTING LEAF;SOUTH EAST POINTING LEAF;TURNED NORTH WEST POINTING LEAF
  aSOUTH WEST POINTING LEAF;aNORTH EAST POINTING LEAF;aSOUTH EAST POINTING LEAF
  NORTH WEST POINTING VINE LEAF;SOUTH WEST POINTING VINE LEAF;NORTH EAST POINTING VINE LEAF
  SOUTH EAST POINTING VINE LEAF;HEAVY NORTH WEST POINTING VINE LEAF;aSOUTH WEST POINTING VINE LEAF
  aNORTH EAST POINTING VINE LEAF;aSOUTH EAST POINTING VINE LEAF;NORTH WEST POINTING BUD
  SOUTH WEST POINTING BUD;NORTH EAST POINTING BUD;SOUTH EAST POINTING BUD
  HEAVY NORTH WEST POINTING BUD;aSOUTH WEST POINTING BUD;aNORTH EAST POINTING BUD
  aSOUTH EAST POINTING BUD;HOLLOW QUILT SQUARE ORNAMENT;dIN BLACK SQUARE
  SOLID QUILT SQUARE ORNAMENT;dIN BLACK SQUARE;LEFTWARDS ROCKET;UPWARDS ROCKET;RIGHTWARDS ROCKET
  DOWNWARDS ROCKET;SCRIPT LIGATURE ET ORNAMENT;HEAVY SCRIPT LIGATURE ET ORNAMENT
  LIGATURE OPEN ET ORNAMENT;HEAVY LIGATURE OPEN ET ORNAMENT;aAMPERSAND ORNAMENT
  SWASH AMPERSAND ORNAMENT;SANS-SERIF HEAVY DOUBLE TURNED COMMA QUOTATION MARK ORNAMENT
  cCOMMA QUOTATION MARK ORNAMENT;bLOW DOUBLE COMMA QUOTATION MARK ORNAMENT
  HEAVY INTERROBANG ORNAMENT;SANS-SERIF INTERROBANG ORNAMENT;HEAVY SANS-SERIF INTERROBANG ORNAMENT
  VERY HEAVY SOLIDUS;bREVERSE SOLIDUS;CHECKER BOARD;REVERSE CHECKER BOARD;ROCKET;HELICOPTER
  STEAM LOCOMOTIVE;RAILWAY CAR;HIGH-SPEED TRAIN;bWITH BULLET NOSE;TRAIN;METRO;LIGHT RAIL;STATION
  TRAM;aCAR;BUS;ONCOMING BUS;TROLLEYBUS;BUS STOP;MINIBUS;AMBULANCE;FIRE ENGINE;POLICE CAR
  ONCOMING POLICE CAR;TAXI;ONCOMING TAXI;AUTOMOBILE;ONCOMING AUTOMOBILE;RECREATIONAL VEHICLE
  DELIVERY TRUCK;ARTICULATED LORRY;TRACTOR;MONORAIL;MOUNTAIN RAILWAY;SUSPENSION RAILWAY
  MOUNTAIN CABLEWAY;AERIAL TRAMWAY;SHIP;ROWBOAT;SPEEDBOAT;HORIZONTAL TRAFFIC LIGHT
  VERTICAL TRAFFIC LIGHT;CONSTRUCTION SIGN;POLICE CARS REVOLVING LIGHT;TRIANGULAR FLAG ON POST;DOOR
  NO ENTRY SIGN;SMOKING SYMBOL;NO SMOKING SYMBOL;PUT LITTER IN ITS PLACE SYMBOL
  DO NOT LITTER SYMBOL;POTABLE WATER SYMBOL;NON-POTABLE WATER SYMBOL;BICYCLE;NO BICYCLES;BICYCLIST
  MOUNTAIN BICYCLIST;PEDESTRIAN;NO PEDESTRIANS;CHILDREN CROSSING;MENS SYMBOL;WOMENS SYMBOL;RESTROOM
  BABY SYMBOL;TOILET;WATER CLOSET;SHOWER;BATH;BATHTUB;PASSPORT CONTROL;CUSTOMS;BAGGAGE CLAIM
  LEFT LUGGAGE;TRIANGLE WITH ROUNDED CORNERS;PROHIBITED SIGN;CIRCLED INFORMATION SOURCE;BOYS SYMBOL
  GIRLS SYMBOL;COUCH AND LAMP;SLEEPING ACCOMMODATION;SHOPPING BAGS;BELLHOP BELL;BED
  PLACE OF WORSHIP;OCTAGONAL SIGN;SHOPPING TROLLEY;STUPA;PAGODA;HINDU TEMPLE;HUT;ELEVATOR;=1F6DD
  PLAYGROUND SLIDE;WHEEL;RING BUOY;HAMMER AND WRENCH;SHIELD;OIL DRUM;MOTORWAY;RAILWAY TRACK
  MOTOR BOAT;UP-POINTING MILITARY AIRPLANE;aAIRPLANE;aSMALL AIRPLANE;SMALL AIRPLANE
  NORTHEAST-POINTING AIRPLANE;AIRPLANE DEPARTURE;aARRIVING;=1F6F0;SATELLITE;ONCOMING FIRE ENGINE
  DIESEL LOCOMOTIVE;PASSENGER SHIP;SCOOTER;MOTOR SCOOTER;CANOE;SLED;FLYING SAUCER;SKATEBOARD
  AUTO RICKSHAW;PICKUP TRUCK;ROLLER SKATE;=1F700;ALCHEMICAL SYMBOL FOR QUINTESSENCE;cAIR;cFIRE
  cEARTH;cWATER;cAQUAFORTIS;cAQUA REGIA;dREGIA-2;dVITAE;dVITAE-2;cVINEGAR;cVINEGAR-2;cVINEGAR-3
  cSULFUR;cPHILOSOPHERS SULFUR;cBLACK SULFUR;cMERCURY SUBLIMATE;dSUBLIMATE-2;dSUBLIMATE-3;cCINNABAR
  cSALT;cNITRE;cVITRIOL;cVITRIOL-2;cROCK SALT;dSALT-2;cGOLD;cSILVER;cIRON ORE;dORE-2
  cCROCUS OF IRON;cREGULUS OF IRON;cCOPPER ORE;cIRON-COPPER ORE;cSUBLIMATE OF COPPER
  cCROCUS OF COPPER;eCOPPER-2;cCOPPER ANTIMONIATE;cSALT OF COPPER ANTIMONIATE
  cSUBLIMATE OF SALT OF COPPER;cVERDIGRIS;cTIN ORE;cLEAD ORE;cANTIMONY ORE;cSUBLIMATE OF ANTIMONY
  cSALT OF ANTIMONY;cSUBLIMATE OF SALT OF ANTIMONY;cVINEGAR OF ANTIMONY;cREGULUS OF ANTIMONY
  eANTIMONY-2;cREGULUS;cREGULUS-2;cREGULUS-3;cREGULUS-4;cALKALI;cALKALI-2;cMARCASITE;cSAL-AMMONIAC
  cARSENIC;cREALGAR;cREALGAR-2;cAURIPIGMENT;cBISMUTH ORE;cTARTAR;cTARTAR-2;cQUICK LIME;cBORAX
  cBORAX-2;cBORAX-3;cALUM;cOIL;cSPIRIT;cTINCTURE;cGUM;cWAX;cPOWDER;cCALX;cTUTTY;cCAPUT MORTUUM
  cSCEPTER OF JOVE;cCADUCEUS;cTRIDENT;cSTARRED TRIDENT;cLODESTONE;cSOAP;cURINE;cHORSE DUNG;cASHES
  cPOT ASHES;cBRICK;cPOWDERED BRICK;cAMALGAM;cSTRATUM SUPER STRATUM;eSTRATUM-2;cSUBLIMATION
  cPRECIPITATE;cDISTILL;cDISSOLVE;cDISSOLVE-2;cPURIFY;cPUTREFACTION;cCRUCIBLE;cCRUCIBLE-2
  cCRUCIBLE-3;cCRUCIBLE-4;cCRUCIBLE-5;cALEMBIC;cBATH OF MARY;eVAPOURS;cRETORT;cHOUR;cNIGHT
  cDAY-NIGHT;cMONTH;cHALF DRAM;dOUNCE;=1F780;BLACK LEFT-POINTING ISOSCELES RIGHT TRIANGLE
  aUP-POINTING ISOSCELES RIGHT TRIANGLE;aRIGHT-POINTING ISOSCELES RIGHT TRIANGLE
  aDOWN-POINTING ISOSCELES RIGHT TRIANGLE;aSLIGHTLY SMALL CIRCLE;MEDIUM BOLD WHITE CIRCLE
  BOLD WHITE CIRCLE;HEAVY WHITE CIRCLE;VERY HEAVY WHITE CIRCLE;EXTREMELY HEAVY WHITE CIRCLE
  WHITE CIRCLE CONTAINING BLACK SMALL CIRCLE;ROUND TARGET;BLACK TINY SQUARE;aSLIGHTLY SMALL SQUARE
  LIGHT WHITE SQUARE;MEDIUM WHITE SQUARE;BOLD WHITE SQUARE;HEAVY WHITE SQUARE
  VERY HEAVY WHITE SQUARE;EXTREMELY HEAVY WHITE SQUARE
  WHITE SQUARE CONTAINING BLACK VERY SMALL SQUARE;dMEDIUM SQUARE;SQUARE TARGET;BLACK TINY DIAMOND
  aVERY SMALL DIAMOND;aMEDIUM SMALL DIAMOND;WHITE DIAMOND CONTAINING BLACK VERY SMALL DIAMOND
  dMEDIUM DIAMOND;DIAMOND TARGET;BLACK TINY LOZENGE;aVERY SMALL LOZENGE;aMEDIUM SMALL LOZENGE
  WHITE LOZENGE CONTAINING BLACK SMALL LOZENGE;THIN GREEK CROSS;LIGHT GREEK CROSS
  MEDIUM GREEK CROSS;BOLD GREEK CROSS;VERY BOLD GREEK CROSS;aHEAVY GREEK CROSS
  EXTREMELY HEAVY GREEK CROSS;THIN SALTIRE;LIGHT SALTIRE;MEDIUM SALTIRE;BOLD SALTIRE;HEAVY SALTIRE
  VERY HEAVY SALTIRE;EXTREMELY HEAVY SALTIRE;LIGHT FIVE SPOKED ASTERISK;MEDIUM FIVE SPOKED ASTERISK
  BOLD FIVE SPOKED ASTERISK;HEAVY FIVE SPOKED ASTERISK;VERY HEAVY FIVE SPOKED ASTERISK
  EXTREMELY HEAVY FIVE SPOKED ASTERISK;LIGHT SIX SPOKED ASTERISK;MEDIUM SIX SPOKED ASTERISK
  BOLD SIX SPOKED ASTERISK;HEAVY SIX SPOKED ASTERISK;VERY HEAVY SIX SPOKED ASTERISK
  EXTREMELY HEAVY SIX SPOKED ASTERISK;LIGHT EIGHT SPOKED ASTERISK;MEDIUM EIGHT SPOKED ASTERISK
  BOLD EIGHT SPOKED ASTERISK;HEAVY EIGHT SPOKED ASTERISK;VERY HEAVY EIGHT SPOKED ASTERISK
  LIGHT THREE POINTED BLACK STAR;MEDIUM THREE POINTED BLACK STAR;THREE POINTED BLACK STAR
  MEDIUM THREE POINTED PINWHEEL STAR;LIGHT FOUR POINTED BLACK STAR;MEDIUM FOUR POINTED BLACK STAR
  FOUR POINTED BLACK STAR;MEDIUM FOUR POINTED PINWHEEL STAR
  REVERSE LIGHT FOUR POINTED PINWHEEL STAR;LIGHT FIVE POINTED BLACK STAR
  HEAVY FIVE POINTED BLACK STAR;MEDIUM SIX POINTED BLACK STAR;HEAVY SIX POINTED BLACK STAR
  SIX POINTED PINWHEEL STAR;MEDIUM EIGHT POINTED BLACK STAR;HEAVY EIGHT POINTED BLACK STAR
  VERY HEAVY EIGHT POINTED BLACK STAR;HEAVY EIGHT POINTED PINWHEEL STAR
  LIGHT TWELVE POINTED BLACK STAR;HEAVY TWELVE POINTED BLACK STAR;cPINWHEEL STAR;CIRCLED TRIANGLE
  NEGATIVE CIRCLED TRIANGLE;CIRCLED SQUARE;NEGATIVE CIRCLED SQUARE;=1F7E0;LARGE ORANGE CIRCLE
  aYELLOW CIRCLE;aGREEN CIRCLE;aPURPLE CIRCLE;aBROWN CIRCLE;aRED SQUARE;aBLUE SQUARE;aORANGE SQUARE
  aYELLOW SQUARE;aGREEN SQUARE;aPURPLE SQUARE;aBROWN SQUARE;=1F7F0;HEAVY EQUALS SIGN;=1F800
  LEFTWARDS ARROW WITH SMALL TRIANGLE ARROWHEAD;UPWARDS ARROW WITH SMALL TRIANGLE ARROWHEAD
  RIGHTWARDS ARROW WITH SMALL TRIANGLE ARROWHEAD;DOWNWARDS ARROW WITH SMALL TRIANGLE ARROWHEAD
  LEFTWARDS ARROW WITH MEDIUM TRIANGLE ARROWHEAD;UPWARDS ARROW WITH MEDIUM TRIANGLE ARROWHEAD
  RIGHTWARDS ARROW WITH MEDIUM TRIANGLE ARROWHEAD;DOWNWARDS ARROW WITH MEDIUM TRIANGLE ARROWHEAD
  LEFTWARDS ARROW WITH LARGE TRIANGLE ARROWHEAD;UPWARDS ARROW WITH LARGE TRIANGLE ARROWHEAD
  RIGHTWARDS ARROW WITH LARGE TRIANGLE ARROWHEAD;DOWNWARDS ARROW WITH LARGE TRIANGLE ARROWHEAD
  =1F810;LEFTWARDS ARROW WITH SMALL EQUILATERAL ARROWHEAD
  UPWARDS ARROW WITH SMALL EQUILATERAL ARROWHEAD;RIGHTWARDS ARROW WITH SMALL EQUILATERAL ARROWHEAD
  DOWNWARDS ARROW WITH SMALL EQUILATERAL ARROWHEAD;LEFTWARDS ARROW WITH EQUILATERAL ARROWHEAD
  UPWARDS ARROW WITH EQUILATERAL ARROWHEAD;RIGHTWARDS ARROW WITH EQUILATERAL ARROWHEAD
  DOWNWARDS ARROW WITH EQUILATERAL ARROWHEAD;HEAVY LEFTWARDS ARROW WITH EQUILATERAL ARROWHEAD
  aUPWARDS ARROW WITH EQUILATERAL ARROWHEAD;aRIGHTWARDS ARROW WITH EQUILATERAL ARROWHEAD
  aDOWNWARDS ARROW WITH EQUILATERAL ARROWHEAD;aLEFTWARDS ARROW WITH LARGE EQUILATERAL ARROWHEAD
  aUPWARDS ARROW WITH LARGE EQUILATERAL ARROWHEAD
  aRIGHTWARDS ARROW WITH LARGE EQUILATERAL ARROWHEAD
  aDOWNWARDS ARROW WITH LARGE EQUILATERAL ARROWHEAD
  LEFTWARDS TRIANGLE-HEADED ARROW WITH NARROW SHAFT;UPWARDS TRIANGLE-HEADED ARROW WITH NARROW SHAFT
  RIGHTWARDS TRIANGLE-HEADED ARROW WITH NARROW SHAFT
  DOWNWARDS TRIANGLE-HEADED ARROW WITH NARROW SHAFT
  LEFTWARDS TRIANGLE-HEADED ARROW WITH MEDIUM SHAFT;UPWARDS TRIANGLE-HEADED ARROW WITH MEDIUM SHAFT
  RIGHTWARDS TRIANGLE-HEADED ARROW WITH MEDIUM SHAFT
  DOWNWARDS TRIANGLE-HEADED ARROW WITH MEDIUM SHAFT;LEFTWARDS TRIANGLE-HEADED ARROW WITH BOLD SHAFT
  UPWARDS TRIANGLE-HEADED ARROW WITH BOLD SHAFT;RIGHTWARDS TRIANGLE-HEADED ARROW WITH BOLD SHAFT
  DOWNWARDS TRIANGLE-HEADED ARROW WITH BOLD SHAFT;LEFTWARDS TRIANGLE-HEADED ARROW WITH HEAVY SHAFT
  UPWARDS TRIANGLE-HEADED ARROW WITH HEAVY SHAFT;RIGHTWARDS TRIANGLE-HEADED ARROW WITH HEAVY SHAFT
  DOWNWARDS TRIANGLE-HEADED ARROW WITH HEAVY SHAFT
  LEFTWARDS TRIANGLE-HEADED ARROW WITH VERY HEAVY SHAFT
  UPWARDS TRIANGLE-HEADED ARROW WITH VERY HEAVY SHAFT
  RIGHTWARDS TRIANGLE-HEADED ARROW WITH VERY HEAVY SHAFT
  DOWNWARDS TRIANGLE-HEADED ARROW WITH VERY HEAVY SHAFT;LEFTWARDS FINGER-POST ARROW
  UPWARDS FINGER-POST ARROW;RIGHTWARDS FINGER-POST ARROW;DOWNWARDS FINGER-POST ARROW
  LEFTWARDS SQUARED ARROW;UPWARDS SQUARED ARROW;RIGHTWARDS SQUARED ARROW;DOWNWARDS SQUARED ARROW
  LEFTWARDS COMPRESSED ARROW;UPWARDS COMPRESSED ARROW;RIGHTWARDS COMPRESSED ARROW
  DOWNWARDS COMPRESSED ARROW;LEFTWARDS HEAVY COMPRESSED ARROW;UPWARDS HEAVY COMPRESSED ARROW
  RIGHTWARDS HEAVY COMPRESSED ARROW;DOWNWARDS HEAVY COMPRESSED ARROW;LEFTWARDS HEAVY ARROW
  UPWARDS HEAVY ARROW;RIGHTWARDS HEAVY ARROW;DOWNWARDS HEAVY ARROW;=1F850
  LEFTWARDS SANS-SERIF ARROW;UPWARDS SANS-SERIF ARROW;RIGHTWARDS SANS-SERIF ARROW
  DOWNWARDS SANS-SERIF ARROW;NORTH WEST SANS-SERIF ARROW;aEAST SANS-SERIF ARROW
  SOUTH EAST SANS-SERIF ARROW;aWEST SANS-SERIF ARROW;LEFT RIGHT SANS-SERIF ARROW
  UP DOWN SANS-SERIF ARROW;=1F860;WIDE-HEADED LEFTWARDS LIGHT BARB ARROW;aUPWARDS LIGHT BARB ARROW
  aRIGHTWARDS LIGHT BARB ARROW;aDOWNWARDS LIGHT BARB ARROW;aNORTH WEST LIGHT BARB ARROW
  bEAST LIGHT BARB ARROW;aSOUTH EAST LIGHT BARB ARROW;bWEST LIGHT BARB ARROW;aLEFTWARDS BARB ARROW
  aUPWARDS BARB ARROW;aRIGHTWARDS BARB ARROW;aDOWNWARDS BARB ARROW;aNORTH WEST BARB ARROW
  bEAST BARB ARROW;aSOUTH EAST BARB ARROW;bWEST BARB ARROW;aLEFTWARDS MEDIUM BARB ARROW
  aUPWARDS MEDIUM BARB ARROW;aRIGHTWARDS MEDIUM BARB ARROW;aDOWNWARDS MEDIUM BARB ARROW
  aNORTH WEST MEDIUM BARB ARROW;bEAST MEDIUM BARB ARROW;aSOUTH EAST MEDIUM BARB ARROW
  bWEST MEDIUM BARB ARROW;aLEFTWARDS HEAVY BARB ARROW;aUPWARDS HEAVY BARB ARROW
  aRIGHTWARDS HEAVY BARB ARROW;aDOWNWARDS HEAVY BARB ARROW;aNORTH WEST HEAVY BARB ARROW
  bEAST HEAVY BARB ARROW;aSOUTH EAST HEAVY BARB ARROW;bWEST HEAVY BARB ARROW
  aLEFTWARDS VERY HEAVY BARB ARROW;aUPWARDS VERY HEAVY BARB ARROW;aRIGHTWARDS VERY HEAVY BARB ARROW
  aDOWNWARDS VERY HEAVY BARB ARROW;aNORTH WEST VERY HEAVY BARB ARROW;bEAST VERY HEAVY BARB ARROW
  aSOUTH EAST VERY HEAVY BARB ARROW;bWEST VERY HEAVY BARB ARROW;=1F890;LEFTWARDS TRIANGLE ARROWHEAD
  UPWARDS TRIANGLE ARROWHEAD;RIGHTWARDS TRIANGLE ARROWHEAD;DOWNWARDS TRIANGLE ARROWHEAD
  LEFTWARDS WHITE ARROW WITHIN TRIANGLE ARROWHEAD;UPWARDS WHITE ARROW WITHIN TRIANGLE ARROWHEAD
  RIGHTWARDS WHITE ARROW WITHIN TRIANGLE ARROWHEAD;DOWNWARDS WHITE ARROW WITHIN TRIANGLE ARROWHEAD
  LEFTWARDS ARROW WITH NOTCHED TAIL;UPWARDS ARROW WITH NOTCHED TAIL
  RIGHTWARDS ARROW WITH NOTCHED TAIL;DOWNWARDS ARROW WITH NOTCHED TAIL;HEAVY ARROW SHAFT WIDTH ONE
  dTWO THIRDS;dONE HALF;eTHIRD;LEFTWARDS BOTTOM-SHADED WHITE ARROW
  RIGHTWARDS BOTTOM SHADED WHITE ARROW;LEFTWARDS TOP SHADED WHITE ARROW
  RIGHTWARDS TOP SHADED WHITE ARROW;LEFTWARDS LEFT-SHADED WHITE ARROW
  RIGHTWARDS RIGHT-SHADED WHITE ARROW;LEFTWARDS RIGHT-SHADED WHITE ARROW
  RIGHTWARDS LEFT-SHADED WHITE ARROW;LEFTWARDS BACK-TILTED SHADOWED WHITE ARROW
  RIGHTWARDS BACK-TILTED SHADOWED WHITE ARROW;LEFTWARDS FRONT-TILTED SHADOWED WHITE ARROW
  RIGHTWARDS FRONT-TILTED SHADOWED WHITE ARROW;WHITE ARROW SHAFT WIDTH ONE;dTWO THIRDS;=1F8B0
  ARROW POINTING UPWARDS THEN NORTH WEST;bRIGHTWARDS THEN CURVING SOUTH WEST;=1F900
  CIRCLED CROSS FORMEE WITH FOUR DOTS;dTWO DOTS;bFORMEE;LEFT HALF CIRCLE WITH FOUR DOTS;dTHREE DOTS
  dTWO DOTS;dDOT;bCIRCLE;DOWNWARD FACING HOOK;bNOTCHED HOOK;bHOOK WITH DOT;bNOTCHED HOOK WITH DOT
  PINCHED FINGERS;WHITE HEART;BROWN HEART;PINCHING HAND;ZIPPER-MOUTH FACE;MONEY-MOUTH FACE
  FACE WITH THERMOMETER;NERD FACE;THINKING FACE;FACE WITH HEAD-BANDAGE;ROBOT FACE;HUGGING FACE
  SIGN OF THE HORNS;CALL ME HAND;RAISED BACK OF HAND;LEFT-FACING FIST;RIGHT-FACING FIST;HANDSHAKE
  HAND WITH INDEX AND MIDDLE FINGERS CROSSED;I LOVE YOU HAND SIGN;FACE WITH COWBOY HAT;CLOWN FACE
  NAUSEATED FACE;ROLLING ON THE FLOOR LAUGHING;DROOLING FACE;LYING FACE;FACE PALM;SNEEZING FACE
  FACE WITH ONE EYEBROW RAISED;GRINNING FACE WITH STAR EYES;cONE LARGE AND ONE SMALL EYE
  FACE WITH FINGER COVERING CLOSED LIPS;SERIOUS FACE WITH SYMBOLS COVERING MOUTH
  SMILING FACE WITH SMILING EYES AND HAND COVERING MOUTH;FACE WITH OPEN MOUTH VOMITING
  SHOCKED FACE WITH EXPLODING HEAD;PREGNANT WOMAN;BREAST-FEEDING;PALMS UP TOGETHER;SELFIE;PRINCE
  MAN IN TUXEDO;MOTHER CHRISTMAS;SHRUG;PERSON DOING CARTWHEEL;JUGGLING;FENCER;MODERN PENTATHLON
  WRESTLERS;WATER POLO;HANDBALL;DIVING MASK;WILTED FLOWER;DRUM WITH DRUMSTICKS;CLINKING GLASSES
  TUMBLER GLASS;SPOON;GOAL NET;RIFLE;FIRST PLACE MEDAL;SECOND PLACE MEDAL;THIRD PLACE MEDAL
  BOXING GLOVE;MARTIAL ARTS UNIFORM;CURLING STONE;LACROSSE STICK AND BALL;SOFTBALL;FLYING DISC
  CROISSANT;AVOCADO;CUCUMBER;BACON;POTATO;CARROT;BAGUETTE BREAD;GREEN SALAD;SHALLOW PAN OF FOOD
  STUFFED FLATBREAD;EGG;GLASS OF MILK;PEANUTS;KIWIFRUIT;PANCAKES;DUMPLING;FORTUNE COOKIE
  TAKEOUT BOX;CHOPSTICKS;BOWL WITH SPOON;CUP WITH STRAW;COCONUT;BROCCOLI;PIE;PRETZEL;CUT OF MEAT
  SANDWICH;CANNED FOOD;LEAFY GREEN;MANGO;MOON CAKE;BAGEL
  SMILING FACE WITH SMILING EYES AND THREE HEARTS;YAWNING FACE;SMILING FACE WITH TEAR
  FACE WITH PARTY HORN AND PARTY HAT;bUNEVEN EYES AND WAVY MOUTH;OVERHEATED FACE;FREEZING FACE
  NINJA;DISGUISED FACE;FACE HOLDING BACK TEARS;aWITH PLEADING EYES;SARI;LAB COAT;GOGGLES
  HIKING BOOT;FLAT SHOE;CRAB;LION FACE;SCORPION;TURKEY;UNICORN FACE;EAGLE;DUCK;BAT;SHARK;OWL
  FOX FACE;BUTTERFLY;DEER;GORILLA;LIZARD;RHINOCEROS;SHRIMP;SQUID;GIRAFFE FACE;ZEBRA FACE;HEDGEHOG
  SAUROPOD;T-REX;CRICKET;KANGAROO;LLAMA;PEACOCK;HIPPOPOTAMUS;PARROT;RACCOON;LOBSTER;MOSQUITO
  MICROBE;BADGER;SWAN;MAMMOTH;DODO;SLOTH;OTTER;ORANGUTAN;SKUNK;FLAMINGO;OYSTER;BEAVER;BISON;SEAL
  GUIDE DOG;PROBING CANE;EMOJI COMPONENT RED HAIR;bCURLY HAIR;bBALD;bWHITE HAIR;BONE;LEG;FOOT;TOOTH
  SUPERHERO;SUPERVILLAIN;SAFETY VEST;EAR WITH HEARING AID;MOTORIZED WHEELCHAIR;MANUAL WHEELCHAIR
  MECHANICAL ARM;aLEG;CHEESE WEDGE;CUPCAKE;SALT SHAKER;BEVERAGE BOX;GARLIC;ONION;FALAFEL;WAFFLE
  BUTTER;MATE DRINK;ICE CUBE;BUBBLE TEA;TROLL;STANDING PERSON;KNEELING PERSON;DEAF PERSON
  FACE WITH MONOCLE;ADULT;CHILD;OLDER ADULT;BEARDED PERSON;PERSON WITH HEADSCARF;aIN STEAMY ROOM
  aCLIMBING;aIN LOTUS POSITION;MAGE;FAIRY;VAMPIRE;MERPERSON;ELF;GENIE;ZOMBIE;BRAIN;ORANGE HEART
  BILLED CAP;SCARF;GLOVES;COAT;SOCKS;RED GIFT ENVELOPE;FIRECRACKER;JIGSAW PUZZLE PIECE;TEST TUBE
  PETRI DISH;DNA DOUBLE HELIX;COMPASS;ABACUS;FIRE EXTINGUISHER;TOOLBOX;BRICK;MAGNET;LUGGAGE
  LOTION BOTTLE;SPOOL OF THREAD;BALL OF YARN;SAFETY PIN;TEDDY BEAR;BROOM;BASKET;ROLL OF PAPER
  BAR OF SOAP;SPONGE;RECEIPT;NAZAR AMULET;NEUTRAL CHESS KING;bQUEEN;bROOK;bBISHOP;bKNIGHT;bPAWN
  WHITE CHESS KNIGHT ROTATED FORTY-FIVE DEGREES;BLACK CHESS KNIGHT ROTATED FORTY-FIVE DEGREES
  NEUTRAL CHESS KNIGHT ROTATED FORTY-FIVE DEGREES;WHITE CHESS KING ROTATED NINETY DEGREES
  bQUEEN ROTATED NINETY DEGREES;bROOK ROTATED NINETY DEGREES;bBISHOP ROTATED NINETY DEGREES
  bKNIGHT ROTATED NINETY DEGREES;bPAWN ROTATED NINETY DEGREES
  BLACK CHESS KING ROTATED NINETY DEGREES;bQUEEN ROTATED NINETY DEGREES
  bROOK ROTATED NINETY DEGREES;bBISHOP ROTATED NINETY DEGREES;bKNIGHT ROTATED NINETY DEGREES
  bPAWN ROTATED NINETY DEGREES;NEUTRAL CHESS KING ROTATED NINETY DEGREES
  bQUEEN ROTATED NINETY DEGREES;bROOK ROTATED NINETY DEGREES;bBISHOP ROTATED NINETY DEGREES
  bKNIGHT ROTATED NINETY DEGREES;bPAWN ROTATED NINETY DEGREES
  WHITE CHESS KNIGHT ROTATED ONE HUNDRED THIRTY-FIVE DEGREES
  BLACK CHESS KNIGHT ROTATED ONE HUNDRED THIRTY-FIVE DEGREES
  NEUTRAL CHESS KNIGHT ROTATED ONE HUNDRED THIRTY-FIVE DEGREES;WHITE CHESS TURNED KING;cQUEEN;cROOK
  cBISHOP;cKNIGHT;cPAWN;BLACK CHESS TURNED KING;cQUEEN;cROOK;cBISHOP;cKNIGHT;cPAWN
  NEUTRAL CHESS TURNED KING;cQUEEN;cROOK;cBISHOP;cKNIGHT;cPAWN
  WHITE CHESS KNIGHT ROTATED TWO HUNDRED TWENTY-FIVE DEGREES
  BLACK CHESS KNIGHT ROTATED TWO HUNDRED TWENTY-FIVE DEGREES
  NEUTRAL CHESS KNIGHT ROTATED TWO HUNDRED TWENTY-FIVE DEGREES
  WHITE CHESS KING ROTATED TWO HUNDRED SEVENTY DEGREES;bQUEEN ROTATED TWO HUNDRED SEVENTY DEGREES
  bROOK ROTATED TWO HUNDRED SEVENTY DEGREES;bBISHOP ROTATED TWO HUNDRED SEVENTY DEGREES
  bKNIGHT ROTATED TWO HUNDRED SEVENTY DEGREES;bPAWN ROTATED TWO HUNDRED SEVENTY DEGREES
  BLACK CHESS KING ROTATED TWO HUNDRED SEVENTY DEGREES;bQUEEN ROTATED TWO HUNDRED SEVENTY DEGREES
  bROOK ROTATED TWO HUNDRED SEVENTY DEGREES;bBISHOP ROTATED TWO HUNDRED SEVENTY DEGREES
  bKNIGHT ROTATED TWO HUNDRED SEVENTY DEGREES;bPAWN ROTATED TWO HUNDRED SEVENTY DEGREES
  NEUTRAL CHESS KING ROTATED TWO HUNDRED SEVENTY DEGREES;bQUEEN ROTATED TWO HUNDRED SEVENTY DEGREES
  bROOK ROTATED TWO HUNDRED SEVENTY DEGREES;bBISHOP ROTATED TWO HUNDRED SEVENTY DEGREES
  bKNIGHT ROTATED TWO HUNDRED SEVENTY DEGREES;bPAWN ROTATED TWO HUNDRED SEVENTY DEGREES
  WHITE CHESS KNIGHT ROTATED THREE HUNDRED FIFTEEN DEGREES
  BLACK CHESS KNIGHT ROTATED THREE HUNDRED FIFTEEN DEGREES
  NEUTRAL CHESS KNIGHT ROTATED THREE HUNDRED FIFTEEN DEGREES;WHITE CHESS EQUIHOPPER
  BLACK CHESS EQUIHOPPER;NEUTRAL CHESS EQUIHOPPER;WHITE CHESS EQUIHOPPER ROTATED NINETY DEGREES
  BLACK CHESS EQUIHOPPER ROTATED NINETY DEGREES;NEUTRAL CHESS EQUIHOPPER ROTATED NINETY DEGREES
  WHITE CHESS KNIGHT-QUEEN;bKNIGHT-ROOK;bKNIGHT-BISHOP;BLACK CHESS KNIGHT-QUEEN;bKNIGHT-ROOK
  bKNIGHT-BISHOP;=1FA60;XIANGQI RED GENERAL;bMANDARIN;bELEPHANT;bHORSE;bCHARIOT;bCANNON;bSOLDIER
  aBLACK GENERAL;bMANDARIN;bELEPHANT;bHORSE;bCHARIOT;bCANNON;bSOLDIER;=1FA70;BALLET SHOES
  ONE-PIECE SWIMSUIT;BRIEFS;SHORTS;THONG SANDAL;=1FA78;DROP OF BLOOD;ADHESIVE BANDAGE;STETHOSCOPE
  X-RAY;CRUTCH;=1FA80;YO-YO;KITE;PARACHUTE;BOOMERANG;MAGIC WAND;PINATA;NESTING DOLLS;=1FA90
  RINGED PLANET;CHAIR;RAZOR;AXE;DIYA LAMP;BANJO;MILITARY HELMET;ACCORDION;LONG DRUM;COIN
  CARPENTRY SAW;SCREWDRIVER;LADDER;HOOK;MIRROR;WINDOW;PLUNGER;SEWING NEEDLE;KNOT;BUCKET;MOUSE TRAP
  TOOTHBRUSH;HEADSTONE;PLACARD;ROCK;MIRROR BALL;IDENTIFICATION CARD;LOW BATTERY;HAMSA;=1FAB0;FLY
  WORM;BEETLE;COCKROACH;POTTED PLANT;WOOD;FEATHER;LOTUS;CORAL;EMPTY NEST;NEST WITH EGGS;=1FAC0
  ANATOMICAL HEART;LUNGS;PEOPLE HUGGING;PREGNANT MAN;aPERSON;PERSON WITH CROWN;=1FAD0;BLUEBERRIES
  BELL PEPPER;OLIVE;FLATBREAD;TAMALE;FONDUE;TEAPOT;POURING LIQUID;BEANS;JAR;=1FAE0;MELTING FACE
  SALUTING FACE;FACE WITH OPEN EYES AND HAND OVER MOUTH;bPEEKING EYE;bDIAGONAL MOUTH
  DOTTED LINE FACE;BITING LIP;BUBBLES;=1FAF0;HAND WITH INDEX FINGER AND THUMB CROSSED
  RIGHTWARDS HAND;LEFTWARDS HAND;PALM DOWN HAND;aUP HAND;INDEX POINTING AT THE VIEWER;HEART HANDS
  =1FB00;BLOCK SEXTANT-1;aSEXTANT-2;aSEXTANT-12;aSEXTANT-3;aSEXTANT-13;aSEXTANT-23;aSEXTANT-123
  aSEXTANT-4;aSEXTANT-14;aSEXTANT-24;aSEXTANT-124;aSEXTANT-34;aSEXTANT-134;aSEXTANT-234
  aSEXTANT-1234;aSEXTANT-5;aSEXTANT-15;aSEXTANT-25;aSEXTANT-125;aSEXTANT-35;aSEXTANT-235
  aSEXTANT-1235;aSEXTANT-45;aSEXTANT-145;aSEXTANT-245;aSEXTANT-1245;aSEXTANT-345;aSEXTANT-1345
  aSEXTANT-2345;aSEXTANT-12345;aSEXTANT-6;aSEXTANT-16;aSEXTANT-26;aSEXTANT-126;aSEXTANT-36
  aSEXTANT-136;aSEXTANT-236;aSEXTANT-1236;aSEXTANT-46;aSEXTANT-146;aSEXTANT-1246;aSEXTANT-346
  aSEXTANT-1346;aSEXTANT-2346;aSEXTANT-12346;aSEXTANT-56;aSEXTANT-156;aSEXTANT-256;aSEXTANT-1256
  aSEXTANT-356;aSEXTANT-1356;aSEXTANT-2356;aSEXTANT-12356;aSEXTANT-456;aSEXTANT-1456;aSEXTANT-2456
  aSEXTANT-12456;aSEXTANT-3456;aSEXTANT-13456;aSEXTANT-23456
  LOWER LEFT BLOCK DIAGONAL LOWER MIDDLE LEFT TO LOWER CENTRE;iRIGHT
  dUPPER MIDDLE LEFT TO LOWER CENTRE;iRIGHT;eLEFT TO LOWER CENTRE
  aRIGHT BLOCK DIAGONAL UPPER MIDDLE LEFT TO UPPER CENTRE;iRIGHT;dLOWER MIDDLE LEFT TO UPPER CENTRE
  iRIGHT;eLEFT TO UPPER CENTRE;eMIDDLE LEFT TO UPPER MIDDLE RIGHT;eCENTRE TO LOWER MIDDLE RIGHT
  eLEFT TO LOWER MIDDLE RIGHT;eCENTRE TO UPPER MIDDLE RIGHT;eLEFT TO UPPER MIDDLE RIGHT
  eCENTRE TO UPPER RIGHT;aLEFT BLOCK DIAGONAL UPPER CENTRE TO UPPER MIDDLE RIGHT
  eLEFT TO UPPER MIDDLE RIGHT;eCENTRE TO LOWER MIDDLE RIGHT;eLEFT TO LOWER MIDDLE RIGHT
  eCENTRE TO LOWER RIGHT;eMIDDLE LEFT TO LOWER MIDDLE RIGHT
  UPPER RIGHT BLOCK DIAGONAL LOWER MIDDLE LEFT TO LOWER CENTRE;iRIGHT
  dUPPER MIDDLE LEFT TO LOWER CENTRE;iRIGHT;eLEFT TO LOWER CENTRE
  aLEFT BLOCK DIAGONAL UPPER MIDDLE LEFT TO UPPER CENTRE;iRIGHT;dLOWER MIDDLE LEFT TO UPPER CENTRE
  iRIGHT;eLEFT TO UPPER CENTRE;eMIDDLE LEFT TO UPPER MIDDLE RIGHT;eCENTRE TO LOWER MIDDLE RIGHT
  eLEFT TO LOWER MIDDLE RIGHT;eCENTRE TO UPPER MIDDLE RIGHT;eLEFT TO UPPER MIDDLE RIGHT
  eCENTRE TO UPPER RIGHT;aRIGHT BLOCK DIAGONAL UPPER CENTRE TO UPPER MIDDLE RIGHT
  eLEFT TO UPPER MIDDLE RIGHT;eCENTRE TO LOWER MIDDLE RIGHT;eLEFT TO LOWER MIDDLE RIGHT
  eCENTRE TO LOWER RIGHT;eMIDDLE LEFT TO LOWER MIDDLE RIGHT
  aAND RIGHT AND LOWER TRIANGULAR THREE QUARTERS BLOCK
  LEFT AND LOWER AND RIGHT TRIANGULAR THREE QUARTERS BLOCK
  UPPER AND LEFT AND LOWER TRIANGULAR THREE QUARTERS BLOCK
  LEFT AND UPPER AND RIGHT TRIANGULAR THREE QUARTERS BLOCK;aTRIANGULAR ONE QUARTER BLOCK
  UPPER TRIANGULAR ONE QUARTER BLOCK;RIGHT TRIANGULAR ONE QUARTER BLOCK
  LOWER TRIANGULAR ONE QUARTER BLOCK;VERTICAL ONE EIGHTH BLOCK-2;cBLOCK-3;cBLOCK-4;cBLOCK-5
  cBLOCK-6;cBLOCK-7;HORIZONTAL ONE EIGHTH BLOCK-2;cBLOCK-3;cBLOCK-4;cBLOCK-5;cBLOCK-6;cBLOCK-7
  LEFT AND LOWER ONE EIGHTH BLOCK;bUPPER ONE EIGHTH BLOCK;RIGHT AND UPPER ONE EIGHTH BLOCK
  bLOWER ONE EIGHTH BLOCK;UPPER AND LOWER ONE EIGHTH BLOCK;HORIZONTAL ONE EIGHTH BLOCK-1358
  UPPER ONE QUARTER BLOCK;aTHREE EIGHTHS BLOCK;aFIVE EIGHTHS BLOCK;aTHREE QUARTERS BLOCK
  aSEVEN EIGHTHS BLOCK;RIGHT ONE QUARTER BLOCK;aTHREE EIGHTHS BLOCK;aFIVE EIGHTHS BLOCK
  aTHREE QUARTERS BLOCK;aSEVEN EIGHTHS BLOCK;LEFT HALF MEDIUM SHADE;RIGHT HALF MEDIUM SHADE
  UPPER HALF MEDIUM SHADE;LOWER HALF MEDIUM SHADE;INVERSE MEDIUM SHADE
  UPPER HALF BLOCK AND LOWER HALF INVERSE MEDIUM SHADE;bINVERSE MEDIUM SHADE AND LOWER HALF BLOCK
  =1FB94;LEFT HALF INVERSE MEDIUM SHADE AND RIGHT HALF BLOCK;CHECKER BOARD FILL
  INVERSE CHECKER BOARD FILL;HEAVY HORIZONTAL FILL;UPPER LEFT TO LOWER RIGHT FILL
  aRIGHT TO LOWER LEFT FILL;aAND LOWER TRIANGULAR HALF BLOCK;LEFT AND RIGHT TRIANGULAR HALF BLOCK
  UPPER LEFT TRIANGULAR MEDIUM SHADE;aRIGHT TRIANGULAR MEDIUM SHADE
  LOWER RIGHT TRIANGULAR MEDIUM SHADE;aLEFT TRIANGULAR MEDIUM SHADE
  BOX DRAWINGS LIGHT DIAGONAL UPPER CENTRE TO MIDDLE LEFT;hRIGHT;dMIDDLE LEFT TO LOWER CENTRE
  eRIGHT TO LOWER CENTRE;dUPPER CENTRE TO MIDDLE LEFT TO LOWER CENTRE;hRIGHT TO LOWER CENTRE
  dMIDDLE LEFT TO LOWER CENTRE TO MIDDLE RIGHT;gUPPER CENTRE TO MIDDLE RIGHT
  dUPPER CENTRE TO MIDDLE LEFT AND MIDDLE RIGHT TO LOWER CENTRE
  hRIGHT AND MIDDLE LEFT TO LOWER CENTRE;iTO LOWER CENTRE TO MIDDLE LEFT
  hLEFT TO LOWER CENTRE TO MIDDLE RIGHT
  dMIDDLE LEFT TO UPPER CENTRE TO MIDDLE RIGHT TO LOWER CENTRE
  eRIGHT TO UPPER CENTRE TO MIDDLE LEFT TO LOWER CENTRE;dDIAMOND;cHORIZONTAL WITH VERTICAL STROKE
  ARROWHEAD-SHAPED POINTER;INVERSE CHECK MARK;LEFT HALF RUNNING MAN;RIGHT HALF RUNNING MAN
  INVERSE DOWNWARDS ARROW WITH TIP LEFTWARDS;LEFTWARDS ARROW AND UPPER AND LOWER ONE EIGHTH BLOCK
  RIGHTWARDS ARROW AND UPPER AND LOWER ONE EIGHTH BLOCK;DOWNWARDS ARROW AND RIGHT ONE EIGHTH BLOCK
  UPWARDS ARROW AND RIGHT ONE EIGHTH BLOCK;LEFT HALF FOLDER;RIGHT HALF FOLDER;VOIDED GREEK CROSS
  RIGHT OPEN SQUARED DOT;NEGATIVE DIAGONAL CROSS;bMIDDLE RIGHT TO LOWER CENTRE;bDIAMOND
  WHITE HEAVY SALTIRE WITH ROUNDED CORNERS;LEFT THIRD WHITE RIGHT POINTING INDEX
  MIDDLE THIRD WHITE RIGHT POINTING INDEX;RIGHT THIRD WHITE RIGHT POINTING INDEX
  NEGATIVE SQUARED QUESTION MARK;STICK FIGURE;bWITH ARMS RAISED;bLEANING LEFT;cRIGHT;bWITH DRESS
  WHITE UP-POINTING CHEVRON;=1FBF0;SEGMENTED DIGIT ZERO;bONE;bTWO;bTHREE;bFOUR;bFIVE;bSIX;bSEVEN
  bEIGHT;bNINE;=E0001;LANGUAGE TAG;=E0020;TAG SPACE;aEXCLAMATION MARK;aQUOTATION MARK;aNUMBER SIGN
  aDOLLAR SIGN;aPERCENT SIGN;aAMPERSAND;aAPOSTROPHE;aLEFT PARENTHESIS;aRIGHT PARENTHESIS;aASTERISK
  aPLUS SIGN;aCOMMA;aHYPHEN-MINUS;aFULL STOP;aSOLIDUS;aDIGIT ZERO;bONE;bTWO;bTHREE;bFOUR;bFIVE;bSIX
  bSEVEN;bEIGHT;bNINE;aCOLON;aSEMICOLON;aLESS-THAN SIGN;aEQUALS SIGN;aGREATER-THAN SIGN
  aQUESTION MARK;aCOMMERCIAL AT;aLATIN CAPITAL LETTER A;dB;dC;dD;dE;dF;dG;dH;dI;dJ;dK;dL;dM;dN;dO
  dP;dQ;dR;dS;dT;dU;dV;dW;dX;dY;dZ;aLEFT SQUARE BRACKET;aREVERSE SOLIDUS;aRIGHT SQUARE BRACKET
  aCIRCUMFLEX ACCENT;aLOW LINE;aGRAVE ACCENT;aLATIN SMALL LETTER A;dB;dC;dD;dE;dF;dG;dH;dI;dJ;dK;dL
  dM;dN;dO;dP;dQ;dR;dS;dT;dU;dV;dW;dX;dY;dZ;aLEFT CURLY BRACKET;aVERTICAL LINE;aRIGHT CURLY BRACKET
  aTILDE;CANCEL TAG;=E0100;VARIATION SELECTOR-17;aSELECTOR-18;aSELECTOR-19;aSELECTOR-20
  aSELECTOR-21;aSELECTOR-22;aSELECTOR-23;aSELECTOR-24;aSELECTOR-25;aSELECTOR-26;aSELECTOR-27
  aSELECTOR-28;aSELECTOR-29;aSELECTOR-30;aSELECTOR-31;aSELECTOR-32;aSELECTOR-33;aSELECTOR-34
  aSELECTOR-35;aSELECTOR-36;aSELECTOR-37;aSELECTOR-38;aSELECTOR-39;aSELECTOR-40;aSELECTOR-41
  aSELECTOR-42;aSELECTOR-43;aSELECTOR-44;aSELECTOR-45;aSELECTOR-46;aSELECTOR-47;aSELECTOR-48
  aSELECTOR-49;aSELECTOR-50;aSELECTOR-51;aSELECTOR-52;aSELECTOR-53;aSELECTOR-54;aSELECTOR-55
  aSELECTOR-56;aSELECTOR-57;aSELECTOR-58;aSELECTOR-59;aSELECTOR-60;aSELECTOR-61;aSELECTOR-62
  aSELECTOR-63;aSELECTOR-64;aSELECTOR-65;aSELECTOR-66;aSELECTOR-67;aSELECTOR-68;aSELECTOR-69
  aSELECTOR-70;aSELECTOR-71;aSELECTOR-72;aSELECTOR-73;aSELECTOR-74;aSELECTOR-75;aSELECTOR-76
  aSELECTOR-77;aSELECTOR-78;aSELECTOR-79;aSELECTOR-80;aSELECTOR-81;aSELECTOR-82;aSELECTOR-83
  aSELECTOR-84;aSELECTOR-85;aSELECTOR-86;aSELECTOR-87;aSELECTOR-88;aSELECTOR-89;aSELECTOR-90
  aSELECTOR-91;aSELECTOR-92;aSELECTOR-93;aSELECTOR-94;aSELECTOR-95;aSELECTOR-96;aSELECTOR-97
  aSELECTOR-98;aSELECTOR-99;aSELECTOR-100;aSELECTOR-101;aSELECTOR-102;aSELECTOR-103;aSELECTOR-104
  aSELECTOR-105;aSELECTOR-106;aSELECTOR-107;aSELECTOR-108;aSELECTOR-109;aSELECTOR-110;aSELECTOR-111
  aSELECTOR-112;aSELECTOR-113;aSELECTOR-114;aSELECTOR-115;aSELECTOR-116;aSELECTOR-117;aSELECTOR-118
  aSELECTOR-119;aSELECTOR-120;aSELECTOR-121;aSELECTOR-122;aSELECTOR-123;aSELECTOR-124;aSELECTOR-125
  aSELECTOR-126;aSELECTOR-127;aSELECTOR-128;aSELECTOR-129;aSELECTOR-130;aSELECTOR-131;aSELECTOR-132
  aSELECTOR-133;aSELECTOR-134;aSELECTOR-135;aSELECTOR-136;aSELECTOR-137;aSELECTOR-138;aSELECTOR-139
  aSELECTOR-140;aSELECTOR-141;aSELECTOR-142;aSELECTOR-143;aSELECTOR-144;aSELECTOR-145;aSELECTOR-146
  aSELECTOR-147;aSELECTOR-148;aSELECTOR-149;aSELECTOR-150;aSELECTOR-151;aSELECTOR-152;aSELECTOR-153
  aSELECTOR-154;aSELECTOR-155;aSELECTOR-156;aSELECTOR-157;aSELECTOR-158;aSELECTOR-159;aSELECTOR-160
  aSELECTOR-161;aSELECTOR-162;aSELECTOR-163;aSELECTOR-164;aSELECTOR-165;aSELECTOR-166;aSELECTOR-167
  aSELECTOR-168;aSELECTOR-169;aSELECTOR-170;aSELECTOR-171;aSELECTOR-172;aSELECTOR-173;aSELECTOR-174
  aSELECTOR-175;aSELECTOR-176;aSELECTOR-177;aSELECTOR-178;aSELECTOR-179;aSELECTOR-180;aSELECTOR-181
  aSELECTOR-182;aSELECTOR-183;aSELECTOR-184;aSELECTOR-185;aSELECTOR-186;aSELECTOR-187;aSELECTOR-188
  aSELECTOR-189;aSELECTOR-190;aSELECTOR-191;aSELECTOR-192;aSELECTOR-193;aSELECTOR-194;aSELECTOR-195
  aSELECTOR-196;aSELECTOR-197;aSELECTOR-198;aSELECTOR-199;aSELECTOR-200;aSELECTOR-201;aSELECTOR-202
  aSELECTOR-203;aSELECTOR-204;aSELECTOR-205;aSELECTOR-206;aSELECTOR-207;aSELECTOR-208;aSELECTOR-209
  aSELECTOR-210;aSELECTOR-211;aSELECTOR-212;aSELECTOR-213;aSELECTOR-214;aSELECTOR-215;aSELECTOR-216
  aSELECTOR-217;aSELECTOR-218;aSELECTOR-219;aSELECTOR-220;aSELECTOR-221;aSELECTOR-222;aSELECTOR-223
  aSELECTOR-224;aSELECTOR-225;aSELECTOR-226;aSELECTOR-227;aSELECTOR-228;aSELECTOR-229;aSELECTOR-230
  aSELECTOR-231;aSELECTOR-232;aSELECTOR-233;aSELECTOR-234;aSELECTOR-235;aSELECTOR-236;aSELECTOR-237
  aSELECTOR-238;aSELECTOR-239;aSELECTOR-240;aSELECTOR-241;aSELECTOR-242;aSELECTOR-243;aSELECTOR-244
  aSELECTOR-245;aSELECTOR-246;aSELECTOR-247;aSELECTOR-248;aSELECTOR-249;aSELECTOR-250;aSELECTOR-251
  aSELECTOR-252;aSELECTOR-253;aSELECTOR-254;aSELECTOR-255;aSELECTOR-256"

end MapQuery.Text.Name
